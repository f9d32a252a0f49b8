import DongleRescue.Firmware.InstallCommands
import DongleRescue.Firmware.LogRoundTrip
import DongleRescue.Firmware.Probes

namespace DongleRescue.Firmware

open DongleRescue.Data DongleRescue.Posix

/-! The firmware of one module, from the kernel's log and the disk to the recommended
package: what each status says, and where its recommendation comes from. -/

variable [Interpreter]

/-- The first entry that declares a file of this last component. -/
def firstOwner (kb : Kb) (relPath : Str) : Option KbEntry := kb.chipsets.find? (declares · relPath)

/-- The failures that the lines state about files of this last component. -/
def statedFailures (lines : List Str) (relPath : Str) : List FirmwareFailure :=
  (lines.zipIdx.filterMap failureOf).filter fun failure => basename failure.firmwarePath = basename relPath

/-- What is known of a file on the host. -/
def Present (host : Host) (relPath : Str) (st : FirmwareStatus) : Prop :=
  (fwNameValid relPath = false ∧ st.installed = none ∧ st.normalizedPath = none) ∨
    fwNameValid relPath = true ∧ ∃ canon, requireFirmwarePath relPath = .ok canon ∧ Honest host firmwareRoot canon st

/-- The packages of a mapping are those of the first owner. -/
def MappedFrom (owner : Option KbEntry) (mapping : PackageMapping) : Prop :=
  mapping.chipset = owner.bind KbEntry.chipset ∧
    mapping.packages = cleanPkgNames ((owner.map KbEntry.fwPackageDebian).getD [])

structure Reports (host : Host) (module : Str) (kb : Kb) (lines : List Str) (relPath : Str)
    (st : FirmwareStatus) : Prop where
  module : st.module = module
  present : Present host relPath st
  failures : st.failures = statedFailures lines relPath
  mapping : ∃ mapping, st.mapping = some mapping ∧ MappedFrom (firstOwner kb relPath) mapping

/-- A recommendation is made of what the status reports. -/
inductive Advises (managers : List Str) (packages : List Str) (st : FirmwareStatus) : RecommendedAction → Prop
  | keep {action : RecommendedAction} (installed : st.installed = some true) (kind : action.kind = "no_action")
      (commands : action.commands = []) : Advises managers packages st action
  | install {action : RecommendedAction} {package manager verb : Str} {others otherManagers : List Str}
      (missing : st.installed ≠ some true) (owned : packages = package :: others)
      (managed : managers = manager :: otherManagers) (supported : managerCmd manager = some verb)
      (kind : action.kind = "install_firmware_package") (commands : action.commands = [verb ++ ' ' :: package]) :
      Advises managers packages st action
  | byHand {action : RecommendedAction} {package : Str} {others : List Str} (missing : st.installed ≠ some true)
      (owned : packages = package :: others) (managed : managers = []) (kind : action.kind = "install_firmware_package")
      (commands : action.commands = []) : Advises managers packages st action
  | lookUp {action : RecommendedAction} (missing : st.installed ≠ some true) (unowned : packages = [])
      (kind : action.kind = "manual_package_lookup") (commands : action.commands = []) :
      Advises managers packages st action

section Stages

variable {host : Host} {module relPath : Str} {kb : Kb} {lines : List Str}
  {managers : List Str} {mapping : PackageMapping} {st : FirmwareStatus} {failures : List FirmwareFailure}

theorem checkFirmwarePresence_present (host : Host) (module relPath : Str) :
    ∃ st, checkFirmwarePresence host module relPath firmwareRoot = .ok st ∧ st.module = module ∧
      Present host relPath st := by
  cases valid : fwNameValid relPath with
  | false => exact ⟨_, if_pos (by simp [valid]), rfl, .inl ⟨valid, rfl, rfl⟩⟩
  | true =>
      have named : (presenceStatus host module (normpath relPath) (rstripSlashes firmwareRoot)).module = module := by
        rw [presenceStatus]
        split
        · rfl
        · rfl
        · rfl
      exact ⟨_, checkFirmwarePresence_eq valid, named,
        .inr ⟨valid, _, requireFirmwarePath_of_fwNameValid valid, presenceStatus_honest⟩⟩

omit [Interpreter] in
theorem failuresOf_eq (failures : List FirmwareFailure) (relPath : Str) : failuresOf failures relPath =
    failures.filter fun failure => basename failure.firmwarePath = basename relPath := by
  refine List.filter_congr fun failure _ => ?_
  by_cases same : failure.firmwarePath = relPath
  · simp [same]
  · simp [same]

theorem mappedFrom_firstOwner (mapped : mapFirmwareToPackages kb relPath = .ok mapping) :
    MappedFrom (firstOwner kb relPath) mapping := by
  cases found : kb.chipsets.find? (declares · relPath) with
  | none =>
      rw [mapFirmwareToPackages, found] at mapped
      cases mapped
      rw [firstOwner, found]
      exact ⟨rfl, rfl⟩
  | some owner =>
      obtain ⟨chipset, _, named, _, rfl⟩ := mapFirmwareToPackages_owned found mapped
      rw [firstOwner, found]
      exact ⟨named.symm, rfl⟩

theorem mapFirmwareToPackages_returns_iff : (∃ mapping, mapFirmwareToPackages kb relPath = .ok mapping) ↔
    ∀ owner ∈ firstOwner kb relPath, Readable owner := by
  cases found : kb.chipsets.find? (declares · relPath) with
  | none =>
      rw [firstOwner, found]
      refine iff_of_true ⟨⟨none, [], .unknown, []⟩, ?_⟩ fun owner absent => (nomatch absent)
      rw [mapFirmwareToPackages, found]
  | some owner =>
      rw [firstOwner, found]
      constructor
      · rintro ⟨mapping, mapped⟩ other same
        obtain ⟨chipset, level, named, levelOk, _⟩ := mapFirmwareToPackages_owned found mapped
        cases same
        exact ⟨⟨chipset, named⟩, level, levelOk⟩
      · intro readable
        exact mapFirmwareToPackages_of_readable found (readable owner rfl)

theorem recommendFirmwareAction_advises (mapped : st.mapping = some mapping)
    (clean : ∀ package ∈ mapping.packages, isPackageName package = true)
    (supported : ∀ manager ∈ managers, managerCmd manager ≠ none) :
    ∃ action, recommendFirmwareAction st managers = .ok action ∧ Advises managers mapping.packages st action := by
  have packages : (st.mapping.map (·.packages)).getD [] = mapping.packages := by rw [mapped]; rfl
  rw [recommendFirmwareAction]
  simp only [packages]
  by_cases installed : st.installed = some true
  · rw [if_pos installed]
    exact ⟨_, rfl, .keep installed rfl rfl⟩
  · rw [if_neg installed]
    cases owned : mapping.packages with
    | nil => exact ⟨_, rfl, .lookUp installed rfl rfl rfl⟩
    | cons package others =>
        have valid := clean package (by simp [owned])
        cases managers with
        | nil => exact ⟨_, rfl, .byHand installed rfl rfl rfl rfl⟩
        | cons manager otherManagers =>
            obtain ⟨verb, found⟩ := Option.ne_none_iff_exists'.mp (supported manager (by simp))
            have built := buildInstallCommand_eq found valid
            simp only [built]
            exact ⟨_, rfl, .install installed rfl rfl found rfl rfl⟩

end Stages

/-- The body of the loop over the files, for the log's lines. -/
def statusOf (host : Host) (module : Str) (kb : Kb) (lines : List Str) (relPath : Str) : Py FirmwareStatus := do
  let st ← checkFirmwarePresence host module relPath firmwareRoot
  let mapping ← mapFirmwareToPackages kb relPath
  return { st with
    failures := failuresOf (lines.zipIdx.filterMap failureOf) relPath, mapping := some mapping }

section File

variable {host : Host} {module relPath : Str} {kb : Kb} {lines : List Str} {st : FirmwareStatus}

theorem statusOf_returns_iff : (∃ st, statusOf host module kb lines relPath = .ok st) ↔
    ∀ owner ∈ firstOwner kb relPath, Readable owner := by
  obtain ⟨st, checked, _, _⟩ := checkFirmwarePresence_present host module relPath
  rw [← mapFirmwareToPackages_returns_iff, statusOf]
  rw [checked]
  constructor
  · rintro ⟨st', result⟩
    obtain ⟨_, _, result⟩ := bind_ok result
    obtain ⟨mapping, mapped, _⟩ := bind_ok result
    exact ⟨mapping, mapped⟩
  · rintro ⟨mapping, mapped⟩
    rw [mapped]
    exact ⟨_, rfl⟩

theorem statusOf_reports (result : statusOf host module kb lines relPath = .ok st) :
    Reports host module kb lines relPath st ∧
      ∃ mapping, mapFirmwareToPackages kb relPath = .ok mapping ∧ st.mapping = some mapping := by
  obtain ⟨before, checked, named, present⟩ := checkFirmwarePresence_present host module relPath
  obtain ⟨found, checked', result⟩ := bind_ok result
  obtain ⟨mapping, mapped, result⟩ := bind_ok result
  cases result
  obtain rfl : before = found := Except.ok.inj (checked.symm.trans checked')
  refine ⟨⟨named, ?_, failuresOf_eq _ relPath, mapping, rfl, mappedFrom_firstOwner mapped⟩, mapping, mapped, rfl⟩
  rcases present with rejected | ⟨valid, canon, accepted, honest⟩
  · exact .inl rejected
  · exact .inr ⟨valid, canon, accepted, honest.path, honest.present, honest.found, honest.unknown, honest.absent⟩

end File

/-- Where the log can be read, the chain is that of each file by itself. -/
theorem resolveModuleFirmware_eq (packaged : Kb) (host : Host) (module : Str) (firmwarePaths lines : List Str)
    (kb : Option Kb) (readable : ∀ line ∈ lines, ReadableNumber line) :
    resolveModuleFirmware packaged host module firmwarePaths lines kb =
      firmwarePaths.mapM (statusOf host module (kb.getD packaged) lines) := by
  have parsed : parseDmesgFirmwareFailures lines = .ok _ := parseDmesg_ok_iff.mpr ⟨readable, rfl⟩
  rw [resolveModuleFirmware, parsed]
  rfl

theorem readable_of_resolved {packaged : Kb} {host : Host} {module : Str} {firmwarePaths lines : List Str}
    {kb : Option Kb} {statuses : List FirmwareStatus}
    (resolved : resolveModuleFirmware packaged host module firmwarePaths lines kb = .ok statuses) :
    ∀ line ∈ lines, ReadableNumber line := by
  obtain ⟨found, parsed, _⟩ := bind_ok resolved
  exact (parseDmesg_ok_iff.mp parsed).1

/-- The chain for one module returns exactly when the numbers in the log and the first owner of each
file can be read, and then reports each file by itself; its recommendation names a package of that
owner or none. -/
theorem resolveModuleFirmware_reports (packaged : Kb) (host : Host) (module : Str) (firmwarePaths lines : List Str)
    (kb : Option Kb) (which : Str → Option Str) :
    ((∃ statuses, resolveModuleFirmware packaged host module firmwarePaths lines kb = .ok statuses) ↔
        (∀ line ∈ lines, ReadableNumber line) ∧
          ∀ relPath ∈ firmwarePaths, ∀ owner ∈ firstOwner (kb.getD packaged) relPath, Readable owner) ∧
      ∀ statuses, resolveModuleFirmware packaged host module firmwarePaths lines kb = .ok statuses →
        List.Forall₂ (fun relPath st => Reports host module (kb.getD packaged) lines relPath st ∧
          ∃ mapping action, st.mapping = some mapping ∧
            recommendFirmwareAction st (detectPackageManagers which) = .ok action ∧
            Advises (detectPackageManagers which) mapping.packages st action) firmwarePaths statuses := by
  refine ⟨⟨?_, ?_⟩, fun statuses resolved => ?_⟩
  · rintro ⟨statuses, resolved⟩
    have readable := readable_of_resolved resolved
    refine ⟨readable, fun relPath member => ?_⟩
    rw [resolveModuleFirmware_eq _ _ _ _ _ _ readable] at resolved
    obtain ⟨st, _, here⟩ := exists_of_mem_left (forall₂_of_mapM resolved) member
    exact statusOf_returns_iff.mp ⟨st, here⟩
  · intro ⟨readable, owners⟩
    rw [resolveModuleFirmware_eq _ _ _ _ _ _ readable]
    exact mapM_returns fun relPath member => statusOf_returns_iff.mpr (owners relPath member)
  · rw [resolveModuleFirmware_eq _ _ _ _ _ _ (readable_of_resolved resolved)] at resolved
    refine (forall₂_of_mapM resolved).imp fun relPath st here => ?_
    obtain ⟨reports, mapping, mapped, found⟩ := statusOf_reports here
    have clean := mapFirmwareToPackages_clean mapped
    obtain ⟨action, recommended, advises⟩ :=
      recommendFirmwareAction_advises found clean fun manager => supported_detected
    exact ⟨reports, mapping, action, found, recommended, advises⟩

omit [Interpreter] in
/-- The message of the driver is the one failure of the file, whose owner has one package. -/
theorem resolveModuleFirmware_reports_mediatek :
    let _ : Interpreter := asciiInterpreter
    let lines : List LogLine := [.other _ silent_newDevice, .printed mediatekLine]
    ∃ st mapping, resolveModuleFirmware ⟨[hostileEntry]⟩ (tableHost [] [] []) "mt7601u" ["mt7601u.bin"]
        (lines.map LogLine.text) none = .ok [st] ∧
      st.failures = [⟨"mediatek/mt7601u.bin", -2, 1, true, "accepted by firmware name grammar"⟩] ∧
      st.mapping = some mapping ∧ mapping.packages = ["firmware-mediatek"] := by
  intro _ lines
  have result := resolveModuleFirmware_reports ⟨[hostileEntry]⟩ (tableHost [] [] []) "mt7601u" ["mt7601u.bin"]
    (lines.map LogLine.text) none fun _ => none
  have readable : ∀ line ∈ lines.map LogLine.text, ReadableNumber line :=
    List.forall_mem_map.mpr fun line _ => readableNumber_text line
  have owners : ∀ relPath ∈ (["mt7601u.bin"] : List Str), ∀ owner ∈ firstOwner ⟨[hostileEntry]⟩ relPath,
      Readable owner := by
    refine List.forall_mem_singleton.mpr fun owner found => ?_
    cases found
    exact ⟨⟨_, rfl⟩, _, rfl⟩
  obtain ⟨statuses, resolved⟩ := result.1.mpr ⟨readable, owners⟩
  cases result.2 statuses resolved with
  | cons here later =>
      cases later
      obtain ⟨reports, _⟩ := here
      obtain ⟨mapping, mapped, _, packages⟩ := reports.mapping
      refine ⟨_, mapping, resolved, reports.failures.trans ?_, mapped, packages.trans (by decide)⟩
      have stated : (lines.map LogLine.text).zipIdx.filterMap failureOf = lines.zipIdx.filterMap LogLine.entry :=
        filterMap_failureOf lines
      rw [statedFailures, stated]
      rfl

end DongleRescue.Firmware
