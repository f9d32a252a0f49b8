import DongleRescue.Diagnostics.MissingFirmware

namespace DongleRescue.Diagnostics

open DongleRescue.Data DongleRescue.Identification DongleRescue.Firmware

/-! The firmware resolver and the classifier on a file that is installed, while an
old log still reports it. -/

section Agreement

variable [Interpreter] {machine : Machine} {res : DiagnosisInput} {boundDriver : Option Str}
  {dmesgLines : List Str} {modprobeD : List (Str × Str)} {host : Host} {managers : Option (List Str)}
  {kb : Option Kb} {module file : Str} {st : FirmwareStatus}

theorem recommendFirmwareAction_installed (installed : st.installed = some true) (managers : List Str) :
    ∃ action, recommendFirmwareAction st managers = .ok action ∧ action.kind = "no_action" := by
  rw [recommendFirmwareAction, if_pos installed]
  exact ⟨_, rfl, rfl⟩

/-- Whatever the log says, nothing is to be done for an installed file. -/
theorem resolveModuleFirmware_installed {paths : List Str} {statuses : List FirmwareStatus}
    (present : checkFirmwarePresence host module file firmwareRoot = .ok st)
    (installed : st.installed = some true)
    (resolved : resolveModuleFirmware machine.chipsetKb host module paths dmesgLines kb = .ok statuses) :
    List.Forall₂ (fun rel status => rel = file → ∀ managers,
      ∃ action, recommendFirmwareAction status managers = .ok action ∧ action.kind = "no_action")
      paths statuses := by
  obtain ⟨failures, _, resolved⟩ := bind_ok resolved
  refine (forall₂_of_mapM resolved).imp fun rel status returned same managers => ?_
  subst same
  obtain ⟨found, presentAgain, returned⟩ := bind_ok returned
  obtain ⟨mapping, _, returned⟩ := bind_ok returned
  cases returned
  cases present.symm.trans presentAgain
  refine recommendFirmwareAction_installed ?_ managers
  exact installed

/-- The action to install the package of a file. -/
def RecommendsInstall (machine : Machine) (managers : Option (List Str)) (kb : Option Kb) (file : Str)
    (diagnosis : Diagnosis) : Prop :=
  diagnosis.recommendedAction.kind = "install_firmware_package" ∧
    ∃ module, fileAction machine managers (kb.getD machine.chipsetKb) module file =
      .ok diagnosis.recommendedAction

/-- The first declared file in the log is this one. -/
structure Blamed (machine : Machine) (res : DiagnosisInput) (boundDriver : Option Str)
    (dmesgLines : List Str) (modprobeD : List (Str × Str)) (kb : Option Kb) (file : Str) : Prop where
  clear : Clear res boundDriver modprobeD
  reported : ∃ failures, dmesgFirmwareFailures dmesgLines = .ok failures ∧
    reportedFile ((kb.getD machine.chipsetKb).entryByName res.chipsetId.chipset) failures = some file

omit [Interpreter] in
theorem classifyUnbound_kind_ne_install (entry : Option KbEntry) :
    (classifyUnbound res entry).recommendedAction.kind ≠ "install_firmware_package" := by
  have bind : ("bind_new_id" : Str) ≠ "install_firmware_package" := by decide
  have refused : ("diagnose_only" : Str) ≠ "install_firmware_package" := by decide
  have pointer : ("out_of_tree_pointer" : Str) ≠ "install_firmware_package" := by decide
  unfold classifyUnbound
  split
  · split
    · exact bind
    · exact refused
  · split
    · split
      · split
        · exact bind
        · exact refused
      · exact pointer
    · exact pointer

omit [Interpreter] in
theorem Shows.explanation_head {action : RecommendedAction} (shows : Shows file action)
    (install : action.kind = "install_firmware_package") : action.explanation.head? = some 'F' := by
  rcases shows.explained with ⟨_, rest, text⟩ | ⟨kind, _⟩
  · rw [text]
    rfl
  · exact absurd (kind.symm.trans install) lookup_ne_install

theorem RecommendsInstall.shows {diagnosis : Diagnosis}
    (recommends : RecommendsInstall machine managers kb file diagnosis) :
    Shows file diagnosis.recommendedAction := by
  obtain ⟨install, module, acted⟩ := recommends
  obtain ⟨owner, _, _, found, _⟩ := installable_of_fileAction acted install
  exact fileAction_shows found acted

theorem not_recommendsInstall_driver (entry : Option KbEntry) (failures : List (Str × Int)) :
    ¬ RecommendsInstall machine managers kb file (classifyDriver res entry boundDriver failures) := by
  intro recommends
  have head := recommends.shows.explanation_head recommends.1
  have kind := recommends.1
  have noAction : ("no_action" : Str) ≠ "install_firmware_package" := by decide
  rw [classifyDriver] at head kind
  split at head
  · rename_i unbound
    rw [if_pos unbound] at kind
    exact classifyUnbound_kind_ne_install entry kind
  · rename_i bound
    rw [if_neg bound] at kind
    split at head
    · cases head
    · rename_i clean
      rw [if_neg clean] at kind
      exact noAction kind

/-- A file that is there is not the one found absent. -/
theorem absentFile_ne {module' : Str} {entry : Option KbEntry}
    (present : checkFirmwarePresence host module file firmwareRoot = .ok st)
    (installed : st.installed = some true) : absentFile (some host) module' entry ≠ some file := by
  intro absent
  rw [absentFile, Option.bind_some] at absent
  obtain ⟨entry, _, absent⟩ := Option.bind_eq_some_iff.mp absent
  obtain ⟨_, missing⟩ := Option.filter_eq_some_iff.mp absent
  simp only [Bool.and_eq_true, decide_eq_true_eq] at missing
  obtain ⟨valid, missing⟩ := missing
  rw [checkFirmwarePresence_eq valid] at present
  have same := Except.ok.inj present
  rw [← same, presenceStatus_installed_iff] at installed
  rw [presenceStatus_installed_iff.mpr installed] at missing
  cases missing

theorem install_recommended_iff (present : checkFirmwarePresence host module file firmwareRoot = .ok st)
    (installed : st.installed = some true) :
    (∃ diagnosis, classify machine res boundDriver dmesgLines modprobeD (some host) managers kb =
      .ok diagnosis ∧ RecommendsInstall machine managers kb file diagnosis) ↔
      Blamed machine res boundDriver dmesgLines modprobeD kb file ∧
        Installable machine managers (kb.getD machine.chipsetKb) file := by
  constructor
  · intro ⟨diagnosis, classified, recommends⟩
    obtain ⟨install, module', acted⟩ := id recommends
    refine ⟨?_, installable_of_fileAction acted install⟩
    rw [classify_eq] at classified
    obtain ⟨failures, read, judged⟩ := bind_ok classified
    by_cases clear : Clear res boundDriver modprobeD
    · cases missing : missingIn (some host) (shownModule res boundDriver)
        ((kb.getD machine.chipsetKb).entryByName res.chipsetId.chipset) failures with
      | none =>
          rw [verdict_driver clear missing] at judged
          have same := Except.ok.inj judged
          rw [← same] at recommends
          exact absurd recommends (not_recommendsInstall_driver _ _)
      | some other =>
          rw [verdict_missing clear missing] at judged
          obtain ⟨action, shown, judged⟩ := bind_ok judged
          have same := Except.ok.inj judged
          have shows := recommends.shows
          rw [← same] at install shows
          obtain ⟨_, _, _, found, _⟩ := installable_of_fileAction shown install
          have sameFile := shows.file_eq (fileAction_shows found shown)
          rw [← sameFile, missingIn, Option.or_eq_some_iff] at missing
          refine ⟨clear, failures, read, ?_⟩
          rcases missing with reported | ⟨_, absent⟩
          · exact reported
          · exact absurd absent (absentFile_ne present installed)
    · rw [verdict_unclear clear] at judged
      have same := Except.ok.inj judged
      rw [← same] at install
      exact absurd install (closedVerdict_kind_ne _ _ _)
  · intro ⟨blamed, installable⟩
    obtain ⟨failures, read, reported⟩ := blamed.reported
    obtain ⟨action, acted, install, _⟩ := fileAction_of_installable installable
    refine ⟨firmwareMissing res action, ?_, install, _, acted⟩
    have missing : missingIn (some host) (shownModule res boundDriver)
        ((kb.getD machine.chipsetKb).entryByName res.chipsetId.chipset) failures = some file := by
      rw [missingIn, reported, Option.some_or]
    rw [classify_eq, read]
    apply (verdict_missing blamed.clear missing).trans
    rw [acted]
    rfl

/-- The resolver leaves an installed file alone whatever the log says; the classifier does so
except when the first declared file in the log is this one and its package can be named. -/
theorem install_not_recommended_iff
    (present : checkFirmwarePresence host module file firmwareRoot = .ok st)
    (installed : st.installed = some true) :
    (∀ paths statuses,
      resolveModuleFirmware machine.chipsetKb host module paths dmesgLines kb = .ok statuses →
        List.Forall₂ (fun rel status => rel = file → ∀ managers,
          ∃ action, recommendFirmwareAction status managers = .ok action ∧ action.kind = "no_action")
          paths statuses) ∧
    ((∀ diagnosis, classify machine res boundDriver dmesgLines modprobeD (some host) managers kb =
        .ok diagnosis → ¬ RecommendsInstall machine managers kb file diagnosis) ↔
      ¬ (Blamed machine res boundDriver dmesgLines modprobeD kb file ∧
        Installable machine managers (kb.getD machine.chipsetKb) file)) := by
  refine ⟨fun paths statuses => resolveModuleFirmware_installed present installed, ?_⟩
  rw [← install_recommended_iff present installed]
  simp only [not_exists, not_and]

end Agreement

def firmwareHost : Host := tableHost [("/lib/firmware/mt7601u.bin", "blob")] [] []

def firmwareStatus : FirmwareStatus :=
  presenceStatus firmwareHost "mt7601u" (Posix.normpath "mt7601u.bin") (rstripSlashes firmwareRoot)

private theorem firmwareStatus_present :
    @checkFirmwarePresence asciiInterpreter firmwareHost "mt7601u" "mt7601u.bin" firmwareRoot =
      .ok firmwareStatus := by
  let _ : Interpreter := asciiInterpreter
  exact checkFirmwarePresence_eq (by decide)

private theorem firmwareStatus_installed : firmwareStatus.installed = some true := by
  decide +kernel

theorem install_not_recommended_quiet :
    firmwareStatus.installed = some true ∧
      ∀ diagnosis, @classify asciiInterpreter bareMachine mt7601uInput (some "mt7601u") [] []
          (some firmwareHost) none (some mt7601uKb) = .ok diagnosis →
        ¬ @RecommendsInstall asciiInterpreter bareMachine none (some mt7601uKb) "mt7601u.bin" diagnosis := by
  let _ : Interpreter := asciiInterpreter
  refine ⟨firmwareStatus_installed,
    (install_not_recommended_iff firmwareStatus_present firmwareStatus_installed).2.mpr ?_⟩
  intro ⟨blamed, _⟩
  obtain ⟨failures, read, reported⟩ := blamed.reported
  cases read
  cases reported

/-- An old failure line outweighs the file on the disk. -/
theorem stale_log_recommends_install :
    @checkFirmwarePresence asciiInterpreter firmwareHost "mt7601u" "mt7601u.bin" firmwareRoot =
        .ok firmwareStatus ∧ firmwareStatus.installed = some true ∧
      ∃ diagnosis, @classify asciiInterpreter bareMachine mt7601uInput (some "mt7601u")
          [failureLine "mt7601u.bin"] [] (some firmwareHost) none (some mt7601uKb) = .ok diagnosis ∧
        @RecommendsInstall asciiInterpreter bareMachine none (some mt7601uKb) "mt7601u.bin" diagnosis := by
  let _ : Interpreter := asciiInterpreter
  have blamed : Blamed bareMachine mt7601uInput (some "mt7601u") [failureLine "mt7601u.bin"] []
      (some mt7601uKb) "mt7601u.bin" :=
    ⟨⟨by decide, by decide⟩, [("mt7601u.bin", -2)], rfl, by decide⟩
  have installable : Installable bareMachine none mt7601uKb "mt7601u.bin" :=
    ⟨mt7601uEntry, "MT7601U", .confirmed, rfl, rfl, rfl, by decide, fun _ first => nomatch first⟩
  exact ⟨firmwareStatus_present, firmwareStatus_installed,
    (install_recommended_iff firmwareStatus_present firmwareStatus_installed).mpr ⟨blamed, installable⟩⟩

end DongleRescue.Diagnostics
