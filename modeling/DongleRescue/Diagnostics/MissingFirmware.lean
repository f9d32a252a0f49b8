import DongleRescue.Diagnostics.Classifier
import DongleRescue.Firmware.InstallCommands
import DongleRescue.Firmware.Owners
import DongleRescue.Firmware.Presence

namespace DongleRescue.Diagnostics

open DongleRescue.Data DongleRescue.Identification DongleRescue.Firmware

/-! The classifier once the log is read: which file it takes to be missing, and
what it shows for that file. -/

/-- The declared file of the first failure that has the base name of one. -/
def reportedFile (entry : Option KbEntry) (failures : List (Str × Int)) : Option Str :=
  entry.bind fun entry => failures.findSome? fun failure => declaredAs entry.firmware (basename failure.1)

/-- The first declared file, when an injected host lacks it. -/
def absentFile (host : Option Host) (module : Str) (entry : Option KbEntry) : Option Str :=
  host.bind fun host => entry.bind fun entry => entry.firmware.head?.filter fun rel =>
    fwNameValid rel &&
      decide ((presenceStatus host module (Posix.normpath rel) (rstripSlashes firmwareRoot)).installed = some false)

section Verdict

variable [Interpreter]

theorem missingFile_eq (host : Option Host) (module : Str) (entry : KbEntry)
    (failures : List (Str × Int)) : missingFile host module entry failures =
      .ok ((reportedFile (some entry) failures).or (absentFile host module (some entry))) := by
  unfold missingFile reportedFile absentFile
  rw [Option.bind_some]
  cases failures.findSome? fun failure => declaredAs entry.firmware (basename failure.1) with
  | some file => rfl
  | none =>
      cases host with
      | none => rfl
      | some host =>
          rw [Option.bind_some, Option.bind_some, Option.none_or]
          cases entry.firmware with
          | nil => rfl
          | cons rel others =>
              rw [List.head?_cons, Option.filter_some]
              cases valid : fwNameValid rel with
              | true =>
                  simp only [checkFirmwarePresence_eq valid, Bool.true_and, decide_eq_true_eq]
                  rfl
              | false =>
                  simp only [checkFirmwarePresence, valid, Bool.not_false, if_true, Bool.false_and]
                  rfl

theorem missingFirmware_eq (host : Option Host) (module : Str) (entry : Option KbEntry)
    (failures : List (Str × Int)) : missingFirmware host module entry failures =
      .ok ((reportedFile entry failures).or (absentFile host module entry)) := by
  cases entry with
  | none => cases host <;> rfl
  | some entry => exact missingFile_eq host module entry failures

/-- What is shown for a missing file. -/
def fileAction (machine : Machine) (managers : Option (List Str)) (kb : Kb) (module file : Str) :
    Py RecommendedAction := do
  let mapping ← mapFirmwareToPackages kb file
  recommendFirmwareAction {
    module
    normalizedPath := some file
    installed := some false
    foundForm := none
    mapping := some mapping } (managersOr machine managers)

def primaryModule (res : DiagnosisInput) (boundDriver : Option Str) : Option Str :=
  pyOr boundDriver (res.candidates.head?.map (·.module))

def shownModule (res : DiagnosisInput) (boundDriver : Option Str) : Str :=
  if truthy (primaryModule res boundDriver) then (primaryModule res boundDriver).getD [] else ['?']

/-- The file in the log, or else the absent one. -/
def missingIn (host : Option Host) (module : Str) (entry : Option KbEntry)
    (failures : List (Str × Int)) : Option Str :=
  (reportedFile entry failures).or (absentFile host module entry)

def verdict (machine : Machine) (res : DiagnosisInput) (boundDriver : Option Str)
    (modprobeD : List (Str × Str)) (host : Option Host) (managers : Option (List Str)) (kb : Kb)
    (failures : List (Str × Int)) : Py Diagnosis :=
  let entry := kb.entryByName res.chipsetId.chipset
  let primary := primaryModule res boundDriver
  if unidentified res then .ok (unknownDevice res)
  else if truthy (blacklisted primary modprobeD) then
    .ok (moduleBlocked res primary ((blacklisted primary modprobeD).getD []))
  else match missingIn host (shownModule res boundDriver) entry failures with
    | some file => do
        let action ← fileAction machine managers kb (shownModule res boundDriver) file
        return firmwareMissing res action
    | none => .ok (classifyDriver res entry boundDriver failures)

theorem classify_eq (machine : Machine) (res : DiagnosisInput) (boundDriver : Option Str)
    (dmesgLines : List Str) (modprobeD : List (Str × Str)) (host : Option Host)
    (managers : Option (List Str)) (kb : Option Kb) :
    classify machine res boundDriver dmesgLines modprobeD host managers kb =
      dmesgFirmwareFailures dmesgLines >>=
        verdict machine res boundDriver modprobeD host managers (kb.getD machine.chipsetKb) := by
  rw [classify]
  cases dmesgFirmwareFailures dmesgLines with
  | error failure => rfl
  | ok failures =>
      simp only [missingFirmware_eq]
      by_cases unnamed : unidentified res = true
      · exact (if_pos unnamed).trans (if_pos unnamed).symm
      · refine (if_neg unnamed).trans (Eq.trans ?_ (if_neg unnamed).symm)
        by_cases blocked : truthy (blacklisted (primaryModule res boundDriver) modprobeD) = true
        · exact (if_pos blocked).trans (if_pos blocked).symm
        · refine (if_neg blocked).trans (Eq.trans ?_ (if_neg blocked).symm)
          simp only [fileAction, bind_assoc]
          rfl

section Stages

variable {machine : Machine} {res : DiagnosisInput} {boundDriver : Option Str}
  {modprobeD : List (Str × Str)} {host : Option Host} {managers : Option (List Str)} {kb : Kb}
  {failures : List (Str × Int)} {file : Str}

/-- Neither unidentified nor blocked. -/
structure Clear (res : DiagnosisInput) (boundDriver : Option Str) (modprobeD : List (Str × Str)) : Prop where
  named : unidentified res = false
  unblocked : truthy (blacklisted (primaryModule res boundDriver) modprobeD) = false

/-- The answer that asks neither the log nor the host. -/
def closedVerdict (res : DiagnosisInput) (boundDriver : Option Str) (modprobeD : List (Str × Str)) : Diagnosis :=
  if unidentified res then unknownDevice res
  else moduleBlocked res (primaryModule res boundDriver)
    ((blacklisted (primaryModule res boundDriver) modprobeD).getD [])

theorem verdict_unclear (unclear : ¬ Clear res boundDriver modprobeD) :
    verdict machine res boundDriver modprobeD host managers kb failures =
      .ok (closedVerdict res boundDriver modprobeD) := by
  rw [closedVerdict]
  by_cases unnamed : unidentified res = true
  · rw [if_pos unnamed]
    exact if_pos unnamed
  · rw [if_neg unnamed]
    by_cases blocked : truthy (blacklisted (primaryModule res boundDriver) modprobeD) = true
    · exact (if_neg unnamed).trans (if_pos blocked)
    · exact absurd ⟨by simpa using unnamed, by simpa using blocked⟩ unclear

omit [Interpreter] in
theorem closedVerdict_kind_ne (res : DiagnosisInput) (boundDriver : Option Str) (modprobeD : List (Str × Str)) :
    (closedVerdict res boundDriver modprobeD).recommendedAction.kind ≠ "install_firmware_package" := by
  have identify : ("manual_chip_id" : Str) ≠ "install_firmware_package" := by decide
  have unblock : ("unblock_module" : Str) ≠ "install_firmware_package" := by decide
  rw [closedVerdict]
  split
  · exact identify
  · exact unblock

theorem verdict_missing (clear : Clear res boundDriver modprobeD)
    (missing : missingIn host (shownModule res boundDriver) (kb.entryByName res.chipsetId.chipset) failures =
      some file) : verdict machine res boundDriver modprobeD host managers kb failures = do
        let action ← fileAction machine managers kb (shownModule res boundDriver) file
        return firmwareMissing res action := by
  simp only [verdict, clear.named, clear.unblocked, missing, Bool.false_eq_true, if_false]

theorem verdict_driver (clear : Clear res boundDriver modprobeD)
    (present : missingIn host (shownModule res boundDriver) (kb.entryByName res.chipsetId.chipset) failures =
      none) : verdict machine res boundDriver modprobeD host managers kb failures =
        .ok (classifyDriver res (kb.entryByName res.chipsetId.chipset) boundDriver failures) := by
  simp only [verdict, clear.named, clear.unblocked, present, Bool.false_eq_true, if_false]

end Stages

section Action

variable {machine : Machine} {managers : Option (List Str)} {kb : Kb} {module file other : Str}
  {owner : KbEntry} {mapping : PackageMapping} {action : RecommendedAction}

def unknownOwner : Str := " is unknown to the knowledge base; look it up in the linux-firmware WHENCE index " ++
  "of your distribution. Unknown owners are never guessed."

omit [Interpreter] in
theorem lookup_ne_install : ("manual_package_lookup" : Str) ≠ "install_firmware_package" := by
  decide

/-- The explanation and the last citation of an action, which give its file away. -/
structure Shows (file : Str) (action : RecommendedAction) : Prop where
  explained : (action.kind = "install_firmware_package" ∧
      ∃ rest, action.explanation = "Firmware " ++ file ++ " (chipset " ++ rest) ∨
    (action.kind = "manual_package_lookup" ∧
      action.explanation = "The owner of firmware " ++ file ++ unknownOwner)
  cited : ∃ rest, action.evidence.getLast? = some ⟨"data/chipsets.json", file ++ " -> " ++ rest⟩

theorem fileAction_shows (found : kb.chipsets.find? (declares · file) = some owner)
    (acted : fileAction machine managers kb module file = .ok action) : Shows file action := by
  obtain ⟨mapping, mapped, acted⟩ := bind_ok acted
  obtain ⟨chipset, level, _, _, same⟩ := mapFirmwareToPackages_owned found mapped
  subst same
  have last (cited : List Evidence) (detail : Evidence) : (cited ++ [detail]).getLast? = some detail :=
    List.getLast?_concat
  rw [recommendFirmwareAction, if_neg (by simp)] at acted
  simp only [Option.map_some, Option.getD_some, List.nil_append, Option.bind_some, formatOption] at acted
  cases packages : cleanPkgNames owner.fwPackageDebian with
  | nil =>
      rw [packages] at acted
      have same := Except.ok.inj acted
      rw [← same]
      exact ⟨.inr ⟨rfl, List.append_assoc _ _ _⟩, _, last _ _⟩
  | cons package others =>
      rw [packages] at acted
      simp only at acted
      split at acted
      · obtain ⟨command, _, acted⟩ := bind_ok acted
        have same := Except.ok.inj acted
        rw [← same]
        refine ⟨.inl ⟨rfl, ?_⟩, _, last _ _⟩
        simp only [List.append_assoc]
        exact ⟨_, rfl⟩
      · have same := Except.ok.inj acted
        rw [← same]
        refine ⟨.inl ⟨rfl, ?_⟩, _, last _ _⟩
        simp only [List.append_assoc]
        exact ⟨_, rfl⟩

omit [Interpreter] in
/-- One action shows one file. -/
theorem Shows.file_eq (shows : Shows file action) (shows' : Shows other action) : file = other := by
  obtain ⟨rest, cited⟩ := shows.cited
  obtain ⟨rest', cited'⟩ := shows'.cited
  rcases shows.explained with ⟨kind, more, text⟩ | ⟨kind, text⟩
  · rcases shows'.explained with ⟨_, more', text'⟩ | ⟨kind', _⟩
    · rw [text, List.append_assoc, List.append_assoc, List.append_assoc, List.append_assoc] at text'
      have explained := List.append_cancel_left text'
      rw [cited, Option.some.injEq, Evidence.mk.injEq, List.append_assoc, List.append_assoc] at cited'
      exact append_left_eq_of_marks (by decide) (by decide) explained cited'.2
    · exact absurd (kind'.symm.trans kind) lookup_ne_install
  · rcases shows'.explained with ⟨kind', _, _⟩ | ⟨_, text'⟩
    · exact absurd (kind.symm.trans kind') lookup_ne_install
    · rw [text, List.append_assoc, List.append_assoc] at text'
      exact List.append_cancel_right (List.append_cancel_left text')

/-- The first owner of the file is complete and names a package, and the package manager, if
there is one, is supported. -/
def Installable (machine : Machine) (managers : Option (List Str)) (kb : Kb) (file : Str) : Prop :=
  ∃ owner chipset level, kb.chipsets.find? (declares · file) = some owner ∧
    owner.chipset = some chipset ∧ owner.level "UNKNOWN" = .ok level ∧
    cleanPkgNames owner.fwPackageDebian ≠ [] ∧
    ∀ manager, (managersOr machine managers).head? = some manager → managerCmd manager ≠ none

theorem buildInstallCommand_of_supported {manager package : Str}
    (supported : managerCmd manager ≠ none) (valid : isPackageName package = true) :
    ∃ command, buildInstallCommand manager [package] = .ok command := by
  obtain ⟨command, found⟩ := Option.ne_none_iff_exists'.mp supported
  exact ⟨_, buildInstallCommand_eq found valid⟩

theorem fileAction_of_installable (installable : Installable machine managers kb file) :
    ∃ action, fileAction machine managers kb module file = .ok action ∧
      action.kind = "install_firmware_package" ∧
      (action.commands = [] ↔ managersOr machine managers = []) := by
  obtain ⟨owner, chipset, level, found, named, levelOk, packaged, supported⟩ := installable
  obtain ⟨package, others, packages⟩ := List.exists_cons_of_ne_nil packaged
  have valid : isPackageName package = true := isPackageName_of_mem_clean (by rw [packages]; simp)
  rw [fileAction, mapFirmwareToPackages, found]
  simp only [KbEntry.name_ok.mpr named, levelOk, bind, Except.bind, pure, Except.pure, packages]
  rw [recommendFirmwareAction, if_neg (by simp)]
  simp only [Option.map_some, Option.getD_some]
  cases usable : managersOr machine managers with
  | nil => exact ⟨_, rfl, rfl, by simp⟩
  | cons manager more =>
      obtain ⟨command, built⟩ := buildInstallCommand_of_supported (supported manager (by rw [usable]; rfl)) valid
      simp only [built]
      exact ⟨_, rfl, rfl, by simp⟩

theorem installable_of_fileAction (acted : fileAction machine managers kb module file = .ok action)
    (install : action.kind = "install_firmware_package") : Installable machine managers kb file := by
  obtain ⟨mapping, mapped, acted⟩ := bind_ok acted
  rw [recommendFirmwareAction, if_neg (by simp)] at acted
  simp only [Option.map_some, Option.getD_some] at acted
  cases packages : mapping.packages with
  | nil =>
      rw [packages] at acted
      have same := Except.ok.inj acted
      rw [← same] at install
      exact absurd install lookup_ne_install
  | cons package others =>
      cases found : kb.chipsets.find? (declares · file) with
      | none =>
          rw [mapFirmwareToPackages, found] at mapped
          have same := Except.ok.inj mapped
          rw [← same] at packages
          cases packages
      | some owner =>
          obtain ⟨chipset, level, named, levelOk, same⟩ := mapFirmwareToPackages_owned found mapped
          have clean : cleanPkgNames owner.fwPackageDebian = package :: others := by rw [← packages, same]
          refine ⟨owner, chipset, level, found, named, levelOk, by simp [clean], ?_⟩
          intro manager first unsupported
          rw [packages] at acted
          obtain ⟨more, usable⟩ := List.head?_eq_some_iff.mp first
          simp only [usable] at acted
          obtain ⟨command, built, _⟩ := bind_ok acted
          rw [buildInstallCommand, unsupported] at built
          cases built

end Action

end Verdict

def mt7601uEntry : KbEntry where
  chipset := some "MT7601U"
  family := some "mediatek-wifi"
  modules := some ["mt7601u"]
  firmware := ["mt7601u.bin"]
  fwPackageDebian := [.str "firmware-mediatek", .str "linux-firmware"]
  newIdFeasible := some true
  newIdModules := ["mt7601u"]
  confidence := some "CONFIRMED"
  usbIds := ["148f:7601"]

def mt7601uKb : Kb := ⟨[mt7601uEntry]⟩

def mt7601uDevice : UsbDevice where
  sysfsPath := "/sys/bus/usb/devices/1-2"
  vid := "148f"
  pid := "7601"
  bcdDevice := "0000"
  deviceClass := 0
  deviceSubclass := 0
  deviceProtocol := 0
  manufacturer := none
  product := none
  serial := none
  modalias := some "usb:v148Fp7601d0000dc00dsc00dp00"
  vidHex := by decide
  pidHex := by decide
  bcdHex := by decide

def mt7601uInput : DiagnosisInput where
  dev := mt7601uDevice
  chipsetId := ⟨"MT7601U", "mediatek-wifi", .confirmed, none, []⟩
  candidates := []
  missingLink := none

def failureLine (name : Str) : Str :=
  "mt7601u 1-2:1.0: Direct firmware load for " ++ name ++ " failed with error -2"

end DongleRescue.Diagnostics
