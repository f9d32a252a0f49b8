import DongleRescue.Firmware.Owners
import DongleRescue.Firmware.Presence
import DongleRescue.Posix.Shell

namespace DongleRescue.Firmware

open DongleRescue.Data DongleRescue.Posix

/-! The commands of a firmware recommendation: whatever the knowledge base holds, the names
that reach a command are package names, and the builder accepts them. -/

section Names

variable {names : List Json} {package : Str}

theorem isPackageName_of_mem_clean (member : package ∈ cleanPkgNames names) :
    isPackageName package = true := by
  obtain ⟨name, _, kept⟩ := List.mem_filterMap.mp member
  cases name with
  | str text =>
      simp only at kept
      split at kept
      · rename_i valid
        cases kept
        exact valid
      · cases kept
  | _ => cases kept

/-- No option, no path, and nothing that white space or the shell would take apart. -/
structure Inert (package : Str) : Prop where
  grammar : isPackageName package = true
  notOption : package.head? ≠ some '-'
  harmless : ∀ c ∈ package, c ≠ '/' ∧ isSpace c = false ∧ isPlain c = true

theorem inert_of_valid (valid : isPackageName package = true) : Inert package := by
  have alnum : ∀ c ∈ asciiAlnum, c ≠ '-' ∧ c ≠ '/' ∧ isSpace c = false ∧ isPlain c = true := by decide
  have marks : ∀ c ∈ ("._+-" : Str), c ≠ '/' ∧ isSpace c = false ∧ isPlain c = true := by decide
  match package with
  | [] => cases valid
  | c :: rest =>
      have shape := valid
      simp only [isPackageName, Bool.and_eq_true, List.contains_iff_mem, List.all_eq_true,
        Bool.or_eq_true] at shape
      obtain ⟨first, others⟩ := shape
      refine ⟨valid, fun option => ?_, List.forall_mem_cons.mpr ⟨(alnum c first).2, fun d later => ?_⟩⟩
      · exact (alnum c first).1 (Option.some.inj option)
      · rcases others d later with letter | mark
        · exact (alnum d letter).2
        · exact marks d mark

end Names

def installVerbs : List Str := ["apt-get install", "dnf install", "pacman -S"]

/-- One line: a fixed command, a space, and one inert name. -/
structure InstallLine (command : Str) : Prop where
  shape : ∃ verb ∈ installVerbs, ∃ package, Inert package ∧ command = verb ++ ' ' :: package
  oneLine : ∀ c ∈ command, isLineBreak c = false

section Commands

variable {manager package command : Str}

theorem managerCmd_mem (found : managerCmd manager = some command) : command ∈ installVerbs := by
  rw [managerCmd] at found
  split at found
  · cases found
    decide
  · split at found
    · cases found
      decide
    · split at found
      · cases found
        decide
      · cases found

theorem supported_detected {which : Str → Option Str} (detected : manager ∈ detectPackageManagers which) :
    managerCmd manager ≠ none := by
  have known : ∀ manager ∈ managerOrder, managerCmd manager ≠ none := by decide
  exact known manager (List.mem_filter.mp detected).1

theorem isLineBreak_of_isSpace {c : Char} (visible : isSpace c = false) : isLineBreak c = false := by
  rw [Bool.eq_false_iff] at visible ⊢
  intro breaks
  apply visible
  simp only [isLineBreak, isSpace, Bool.or_eq_true, Bool.and_eq_true, decide_eq_true_eq, beq_iff_eq] at breaks ⊢
  omega

theorem installLine_of_inert (found : managerCmd manager = some command) (inert : Inert package) :
    InstallLine (command ++ ' ' :: package) := by
  have member := managerCmd_mem found
  refine ⟨⟨command, member, package, inert, rfl⟩, ?_⟩
  have verbs : ∀ verb ∈ installVerbs, ∀ c ∈ verb, isLineBreak c = false := by decide
  rw [List.forall_mem_append, List.forall_mem_cons]
  exact ⟨verbs command member, by decide, fun c inName => isLineBreak_of_isSpace (inert.harmless c inName).2.1⟩

theorem buildInstallCommand_eq [Interpreter] (found : managerCmd manager = some command)
    (valid : isPackageName package = true) :
    buildInstallCommand manager [package] = .ok (command ++ ' ' :: package) := by
  rw [buildInstallCommand, found]
  simp [valid, join_singleton]

end Commands

section Recommendations

variable [Interpreter] {kb : Kb} {relPath : Str} {mapping : PackageMapping} {st : FirmwareStatus}
  {managers : List Str}

theorem mapFirmwareToPackages_clean (mapped : mapFirmwareToPackages kb relPath = .ok mapping) :
    ∀ package ∈ mapping.packages, isPackageName package = true := by
  cases found : kb.chipsets.find? (declares · relPath) with
  | none =>
      rw [mapFirmwareToPackages, found] at mapped
      cases mapped
      exact List.forall_mem_nil _
  | some owner =>
      obtain ⟨_, _, _, _, same⟩ := mapFirmwareToPackages_owned found mapped
      subst same
      exact fun package member => isPackageName_of_mem_clean member

/-- What the filter lets through, the builder accepts. -/
theorem recommendFirmwareAction_of_clean
    (clean : ∀ package ∈ (st.mapping.map (·.packages)).getD [], isPackageName package = true)
    (supported : ∀ manager ∈ managers, managerCmd manager ≠ none) :
    ∃ action, recommendFirmwareAction st managers = .ok action ∧
      (action.commands = [] ∨ ∃ command, action.commands = [command] ∧ InstallLine command) := by
  rw [recommendFirmwareAction]
  simp only
  split
  · exact ⟨_, rfl, .inl rfl⟩
  · cases packages : (st.mapping.map (·.packages)).getD [] with
    | nil => exact ⟨_, rfl, .inl rfl⟩
    | cons package others =>
        rw [packages] at clean
        have valid := clean package (by simp)
        cases managers with
        | nil => exact ⟨_, rfl, .inl rfl⟩
        | cons manager others =>
            obtain ⟨verb, found⟩ := Option.ne_none_iff_exists'.mp (supported manager (by simp))
            have built := buildInstallCommand_eq found valid
            simp only [built]
            exact ⟨_, rfl, .inr ⟨_, rfl, installLine_of_inert found (inert_of_valid valid)⟩⟩

/-- Whatever the knowledge base holds and whatever the host says about the file, the
recommendation comes out, and its commands are inert. -/
theorem recommendation_inert (mapped : mapFirmwareToPackages kb relPath = .ok mapping) (host : Host)
    (module root : Str) (failures : List FirmwareFailure) (which : Str → Option Str) :
    ∃ st action, checkFirmwarePresence host module relPath root = .ok st ∧
      recommendFirmwareAction { st with failures, mapping := some mapping } (detectPackageManagers which) =
        .ok action ∧
      (action.commands = [] ∨ ∃ command, action.commands = [command] ∧ InstallLine command) := by
  obtain ⟨st, checked⟩ : ∃ st, checkFirmwarePresence host module relPath root = .ok st := by
    cases valid : fwNameValid relPath with
    | false => exact ⟨_, if_pos (by simp [valid])⟩
    | true => exact ⟨_, checkFirmwarePresence_eq valid⟩
  let result : FirmwareStatus := { st with failures, mapping := some mapping }
  have clean : ∀ package ∈ (result.mapping.map (·.packages)).getD [], isPackageName package = true :=
    mapFirmwareToPackages_clean mapped
  have supported : ∀ manager ∈ detectPackageManagers which, managerCmd manager ≠ none :=
    fun _ => supported_detected
  obtain ⟨action, recommended, inert⟩ := recommendFirmwareAction_of_clean clean supported
  exact ⟨st, action, checked, recommended, inert⟩

end Recommendations

def hostileEntry : KbEntry where
  chipset := some "MT7601U"
  firmware := ["mt7601u.bin"]
  fwPackageDebian := [.str "--reinstall", .int 7, .str "a b; rm -rf /", .str "firmware-mediatek"]

/-- Of hostile values only the one package name is left. -/
theorem recommendation_inert_hostile :
    ∃ st action mapping, @mapFirmwareToPackages asciiInterpreter ⟨[hostileEntry]⟩ "mt7601u.bin" = .ok mapping ∧
      @checkFirmwarePresence asciiInterpreter (tableHost [] [] []) "mt7601u" "mt7601u.bin" firmwareRoot = .ok st ∧
      @recommendFirmwareAction asciiInterpreter { st with failures := [], mapping := some mapping }
        (detectPackageManagers fun _ => some "/usr/bin/apt") = .ok action ∧
      action.commands = ["apt-get install firmware-mediatek"] ∧ InstallLine "apt-get install firmware-mediatek" := by
  let _ : Interpreter := asciiInterpreter
  have mapped : mapFirmwareToPackages ⟨[hostileEntry]⟩ "mt7601u.bin" = .ok _ := rfl
  have absent : checkFirmwarePresence (tableHost [] [] []) "mt7601u" "mt7601u.bin" firmwareRoot = .ok _ :=
    checkFirmwarePresence_eq (by decide)
  obtain ⟨st, action, checked, recommended, inert⟩ := recommendation_inert mapped (tableHost [] [] []) "mt7601u"
    firmwareRoot [] fun _ => some "/usr/bin/apt"
  have commands : action.commands = ["apt-get install firmware-mediatek"] := by
    cases checked.symm.trans absent
    have built : Except.ok action = .ok _ := recommended.symm
    cases built
    decide +kernel
  refine ⟨st, action, _, mapped, checked, recommended, commands, ?_⟩
  rw [commands] at inert
  rcases inert with none | ⟨command, same, line⟩
  · cases none
  · rwa [List.singleton_inj.mp same]

end DongleRescue.Firmware
