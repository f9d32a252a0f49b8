import DongleRescue.Diagnostics.RejectedLog

namespace DongleRescue.Diagnostics

open DongleRescue.Data DongleRescue.Identification DongleRescue.Firmware

/-! Where the machine leaks into a classification whose package managers are given: an
empty tuple reads as none given. -/

def aptMachine : Machine :=
  { bareMachine with which := fun program => if program = "apt" then some "/usr/bin/apt" else none }

/-- The first owner of the file is complete and names a package. -/
def Packaged [Interpreter] (kb : Kb) (file : Str) : Prop :=
  ∃ owner chipset level, kb.chipsets.find? (declares · file) = some owner ∧
    owner.chipset = some chipset ∧ owner.level "UNKNOWN" = .ok level ∧ cleanPkgNames owner.fwPackageDebian ≠ []

def IsInstall (command : Str) : Prop :=
  ∃ manager verb, managerCmd manager = some verb ∧ startsWith command verb = true

section Files

variable [Interpreter] {machine machine' : Machine} {managers : Option (List Str)} {kb : Kb}
  {module file : Str} {mapping : PackageMapping} {action : RecommendedAction}

theorem packaged_of_mapping (mapped : mapFirmwareToPackages kb file = .ok mapping)
    (packages : mapping.packages ≠ []) : Packaged kb file := by
  cases found : kb.chipsets.find? (declares · file) with
  | none =>
      rw [mapFirmwareToPackages, found] at mapped
      cases mapped
      exact absurd rfl packages
  | some owner =>
      obtain ⟨chipset, level, named, levelOk, same⟩ := mapFirmwareToPackages_owned found mapped
      rw [same] at packages
      exact ⟨owner, chipset, level, found, named, levelOk, packages⟩

/-- Without a package the managers are not asked. -/
theorem fileAction_unpackaged (unpackaged : ¬ Packaged kb file) :
    fileAction machine managers kb module file = fileAction machine' managers kb module file := by
  rw [fileAction, fileAction]
  cases mapped : mapFirmwareToPackages kb file with
  | error failure => rfl
  | ok mapping =>
      have none : mapping.packages = [] := by
        by_contra packages
        exact unpackaged (packaged_of_mapping mapped packages)
      simp only [bind, Except.bind, recommendFirmwareAction, Option.map_some, Option.getD_some, none]

theorem fileAction_lookup (unpackaged : ¬ Packaged kb file)
    (acted : fileAction machine managers kb module file = .ok action) : action.commands = [] := by
  obtain ⟨mapping, mapped, acted⟩ := bind_ok acted
  have none : mapping.packages = [] := by
    by_contra packages
    exact unpackaged (packaged_of_mapping mapped packages)
  rw [recommendFirmwareAction, if_neg (by simp)] at acted
  simp only [Option.map_some, Option.getD_some, none] at acted
  cases acted
  rfl

theorem fileAction_packaged (module : Str) (packaged : Packaged kb file)
    (supported : ∀ manager ∈ managersOr machine managers, managerCmd manager ≠ none) :
    ∃ action, fileAction machine managers kb module file = .ok action ∧
      (action.commands = [] ↔ managersOr machine managers = []) := by
  obtain ⟨owner, chipset, level, found, named, levelOk, packages⟩ := packaged
  have installable : Installable machine managers kb file :=
    ⟨owner, chipset, level, found, named, levelOk, packages,
      fun manager first => supported manager (List.mem_of_head? first)⟩
  obtain ⟨action, acted, _, commands⟩ := fileAction_of_installable installable
  exact ⟨action, acted, commands⟩

omit [Interpreter] in
theorem managersOr_given {given : List Str} (nonempty : given ≠ []) : managersOr machine (some given) = given := by
  cases given with
  | nil => exact absurd rfl nonempty
  | cons manager others => rfl

theorem fileAction_given {given : List Str} (nonempty : given ≠ []) :
    fileAction machine (some given) kb module file = fileAction machine' (some given) kb module file := by
  rw [fileAction, fileAction, managersOr_given nonempty, managersOr_given nonempty]

end Files

section Machines

variable [Interpreter] {machine machine' : Machine} {res : DiagnosisInput} {boundDriver : Option Str}
  {dmesgLines : List Str} {modprobeD : List (Str × Str)} {given : List Str} {kb : Kb}
  {failures : List (Str × Int)} {diagnosis : Diagnosis}

/-- An empty tuple of managers, and a reported file whose owner names a package. -/
structure AsksMachine (res : DiagnosisInput) (boundDriver : Option Str) (dmesgLines : List Str)
    (modprobeD : List (Str × Str)) (given : List Str) (kb : Kb) : Prop where
  empty : given = []
  clear : Clear res boundDriver modprobeD
  packaged : ∃ failures file, dmesgFirmwareFailures dmesgLines = .ok failures ∧
    reportedFile (kb.entryByName res.chipsetId.chipset) failures = some file ∧ Packaged kb file

omit [Interpreter] in
theorem missingIn_hostless (module : Str) (entry : Option KbEntry) :
    missingIn none module entry failures = reportedFile entry failures :=
  Option.or_none

omit [Interpreter] in
theorem not_isInstall_inspect (text : Str) : ¬ IsInstall ("# inspect: grep -n '" ++ text) := by
  intro ⟨manager, verb, known, starts⟩
  have letter : ∃ c rest, verb = c :: rest ∧ c ≠ '#' := by
    rw [managerCmd] at known
    split_ifs at known
    · cases known
      exact ⟨_, _, rfl, by decide⟩
    · cases known
      exact ⟨_, _, rfl, by decide⟩
    · cases known
      exact ⟨_, _, rfl, by decide⟩
  obtain ⟨c, rest, same, other⟩ := letter
  rw [same] at starts
  obtain ⟨more, split⟩ := startsWith_iff.mp starts
  exact other (List.cons.inj split).1.symm

omit [Interpreter] in
theorem closedVerdict_no_install :
    ∀ command ∈ (closedVerdict res boundDriver modprobeD).recommendedAction.commands, ¬ IsInstall command := by
  rw [closedVerdict]
  split
  · exact List.forall_mem_nil _
  · refine List.forall_mem_singleton.mpr ?_
    rw [List.append_assoc, List.append_assoc]
    exact not_isInstall_inspect _

omit [Interpreter] in
theorem classifyDriver_commands (entry : Option KbEntry) :
    (classifyDriver res entry boundDriver failures).recommendedAction.commands = [] := by
  rw [classifyDriver]
  split
  · unfold classifyUnbound
    split
    · split
      · rfl
      · rfl
    · split
      · split
        · split
          · rfl
          · rfl
        · rfl
      · rfl
  · split
    · rfl
    · rfl

/-- The same answer on any machine. -/
theorem verdict_pure (closed : ∀ file, reportedFile (kb.entryByName res.chipsetId.chipset) failures = some file →
      Clear res boundDriver modprobeD → given = [] → ¬ Packaged kb file) :
    verdict machine res boundDriver modprobeD none (some given) kb failures =
      verdict machine' res boundDriver modprobeD none (some given) kb failures := by
  by_cases clear : Clear res boundDriver modprobeD
  · cases reported : reportedFile (kb.entryByName res.chipsetId.chipset) failures with
    | none =>
        have present := (missingIn_hostless (shownModule res boundDriver) _).trans reported
        rw [verdict_driver clear present, verdict_driver clear present]
    | some file =>
        have missing := (missingIn_hostless (shownModule res boundDriver) _).trans reported
        rw [verdict_missing clear missing, verdict_missing clear missing]
        by_cases empty : given = []
        · rw [fileAction_unpackaged (closed file reported clear empty)]
        · rw [fileAction_given empty]
  · rw [verdict_unclear clear, verdict_unclear clear]

theorem verdict_no_install (closed : ∀ file, reportedFile (kb.entryByName res.chipsetId.chipset) failures = some file →
      Clear res boundDriver modprobeD → ¬ Packaged kb file)
    (returned : verdict machine res boundDriver modprobeD none (some given) kb failures = .ok diagnosis) :
    ∀ command ∈ diagnosis.recommendedAction.commands, ¬ IsInstall command := by
  by_cases clear : Clear res boundDriver modprobeD
  · cases reported : reportedFile (kb.entryByName res.chipsetId.chipset) failures with
    | none =>
        rw [verdict_driver clear ((missingIn_hostless _ _).trans reported)] at returned
        cases returned
        rw [classifyDriver_commands]
        exact List.forall_mem_nil _
    | some file =>
        rw [verdict_missing clear ((missingIn_hostless _ _).trans reported)] at returned
        obtain ⟨action, acted, returned⟩ := bind_ok returned
        cases returned
        have none : action.commands = [] := fileAction_lookup (closed file reported clear) acted
        simp only [firmwareMissing, conclude, none]
        exact List.forall_mem_nil _
  · rw [verdict_unclear clear] at returned
    cases returned
    exact closedVerdict_no_install

/-- A machine with a package manager and one without answer differently. -/
theorem classify_asks (asks : AsksMachine res boundDriver dmesgLines modprobeD given kb) :
    classify bareMachine res boundDriver dmesgLines modprobeD none (some given) (some kb) ≠
      classify aptMachine res boundDriver dmesgLines modprobeD none (some given) (some kb) := by
  obtain ⟨failures, file, read, reported, packaged⟩ := asks.packaged
  have missing := (missingIn_hostless (shownModule res boundDriver) _).trans reported
  have bare : managersOr bareMachine (some given) = [] := by
    rw [asks.empty]
    rfl
  have apt : managersOr aptMachine (some given) = ["apt"] := by
    rw [asks.empty]
    rfl
  have supported : ∀ manager ∈ managersOr bareMachine (some given), managerCmd manager ≠ none := by
    rw [bare]
    exact List.forall_mem_nil _
  have supported' : ∀ manager ∈ managersOr aptMachine (some given), managerCmd manager ≠ none := by
    rw [apt]
    decide
  obtain ⟨action, acted, commands⟩ := fileAction_packaged (shownModule res boundDriver) packaged supported
  obtain ⟨action', acted', commands'⟩ := fileAction_packaged (shownModule res boundDriver) packaged supported'
  rw [classify_eq, classify_eq, read]
  intro same
  have same : verdict bareMachine res boundDriver modprobeD none (some given) kb failures =
      verdict aptMachine res boundDriver modprobeD none (some given) kb failures := same
  rw [verdict_missing asks.clear missing, verdict_missing asks.clear missing, acted, acted'] at same
  have sameAction : action = action' := congrArg Diagnosis.recommendedAction (Except.ok.inj same)
  have none := commands.mpr bare
  rw [sameAction, commands', apt] at none
  cases none

/-- With given managers and no host a classification is the same on every machine, and an empty
tuple yields no install command, exactly when the machine is not asked. -/
theorem classify_pure_iff :
    ((∀ machine machine', classify machine res boundDriver dmesgLines modprobeD none (some given) (some kb) =
        classify machine' res boundDriver dmesgLines modprobeD none (some given) (some kb)) ∧
      (given = [] → ∀ machine diagnosis,
        classify machine res boundDriver dmesgLines modprobeD none (some given) (some kb) = .ok diagnosis →
          ∀ command ∈ diagnosis.recommendedAction.commands, ¬ IsInstall command)) ↔
      ¬ AsksMachine res boundDriver dmesgLines modprobeD given kb := by
  constructor
  · intro ⟨same, _⟩ asks
    exact classify_asks asks (same _ _)
  · intro closed
    refine ⟨fun machine machine' => ?_, fun empty machine diagnosis classified => ?_⟩
    · rw [classify_eq, classify_eq]
      cases read : dmesgFirmwareFailures dmesgLines with
      | error failure => rfl
      | ok failures =>
          apply verdict_pure
          intro file reported clear empty packaged
          exact closed ⟨empty, clear, failures, file, read, reported, packaged⟩
    · rw [classify_eq] at classified
      obtain ⟨failures, read, returned⟩ := bind_ok classified
      apply verdict_no_install ?_ returned
      intro file reported clear packaged
      exact closed ⟨empty, clear, failures, file, read, reported, packaged⟩

omit [Interpreter] in
/-- No manager given, and yet the command of the one that is installed. -/
theorem empty_managers_ask_machine :
    ∃ bare apt, @classify asciiInterpreter bareMachine mt7601uInput none [failureLine "mt7601u.bin"] [] none
        (some []) (some mt7601uKb) = .ok bare ∧
      @classify asciiInterpreter aptMachine mt7601uInput none [failureLine "mt7601u.bin"] [] none
        (some []) (some mt7601uKb) = .ok apt ∧
      bare.recommendedAction.commands = [] ∧
      apt.recommendedAction.commands = [("apt-get install firmware-mediatek" : Str)] :=
  ⟨_, _, rfl, rfl, rfl, rfl⟩

end Machines

end DongleRescue.Diagnostics
