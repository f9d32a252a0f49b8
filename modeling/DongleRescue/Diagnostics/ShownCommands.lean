import DongleRescue.Data.Lines
import DongleRescue.Diagnostics.Ambient
import DongleRescue.Diagnostics.BlockLines

namespace DongleRescue.Diagnostics

open DongleRescue.Data DongleRescue.Identification DongleRescue.Firmware

/-! The commands of a diagnosis.  An install line is built from validated names; the
inspection of a block takes the module and the path of the file as they come. -/

def inspectCommand (primary : Option Str) (blockedBy : Str) : Str :=
  "# inspect: grep -n '" ++ formatOption primary ++ "' " ++ blockedBy

/-- One line, and a module name where the command names a module. -/
structure Validated (primary : Option Str) (command : Str) : Prop where
  oneLine : OneLine command
  named : ∀ path, command = inspectCommand primary path → isModuleName (formatOption primary) = true

section Commands

variable {primary : Option Str} {path command : Str}

theorem inspectCommand_head : (inspectCommand primary path).head? = some '#' := rfl

theorem inspectCommand_oneLine : OneLine (inspectCommand primary path) ↔
    OneLine (formatOption primary) ∧ OneLine path := by
  have opening : OneLine "# inspect: grep -n '" := by decide +kernel
  have closing : OneLine "' " := by decide
  unfold inspectCommand
  simp only [oneLine_append]
  constructor
  · intro plain
    exact ⟨plain.1.1.2, plain.2⟩
  · intro plain
    exact ⟨⟨⟨opening, plain.1⟩, closing⟩, plain.2⟩

theorem oneLine_of_moduleName {module : Str} (valid : isModuleName module = true) : OneLine module := by
  have all : ∀ c ∈ moduleChars, isLineBreak c = false := by decide
  exact fun c member => all c (isModuleName_chars valid c member)

theorem validated_inspectCommand : Validated primary (inspectCommand primary path) ↔
    isModuleName (formatOption primary) = true ∧ OneLine path := by
  constructor
  · intro validated
    exact ⟨validated.named path rfl, (inspectCommand_oneLine.mp validated.oneLine).2⟩
  · intro ⟨valid, rest⟩
    exact ⟨inspectCommand_oneLine.mpr ⟨oneLine_of_moduleName valid, rest⟩, fun _ _ => valid⟩

/-- An install line is no inspection, whatever package it names. -/
theorem InstallLine.validated (install : InstallLine command) : Validated primary command := by
  refine ⟨install.oneLine, fun path same => ?_⟩
  obtain ⟨verb, member, package, _, shape⟩ := install.shape
  have verbs : ∀ verb ∈ installVerbs, verb ≠ [] ∧ verb.head? ≠ some '#' := by decide
  have first := congrArg List.head? (shape.symm.trans same)
  rw [inspectCommand_head, List.head?_append_of_ne_nil _ (verbs verb member).1] at first
  exact absurd first (verbs verb member).2

end Commands

section Runs

variable [Interpreter] {machine : Machine} {res : DiagnosisInput} {boundDriver : Option Str}
  {lines : List Str} {files : List (Str × Str)} {host : Option Host} {managers : Option (List Str)}
  {kb : Option Kb} {diagnosis : Diagnosis}

/-- No command, or one that installs a package. -/
def InstallOnly (commands : List Str) : Prop :=
  commands = [] ∨ ∃ command, commands = [command] ∧ InstallLine command

theorem fileAction_installOnly {kb : Kb} {module file : Str} {action : RecommendedAction}
    (acted : fileAction machine managers kb module file = .ok action) : InstallOnly action.commands := by
  obtain ⟨mapping, mapped, acted⟩ := bind_ok acted
  have clean := mapFirmwareToPackages_clean mapped
  rw [recommendFirmwareAction, if_neg (by simp)] at acted
  simp only [Option.map_some, Option.getD_some] at acted
  cases packages : mapping.packages with
  | nil =>
      rw [packages] at acted
      have same := Except.ok.inj acted
      exact .inl (by rw [← same])
  | cons package others =>
      rw [packages] at acted clean
      have valid := clean package (by simp)
      simp only at acted
      split at acted
      · rename_i manager _ _
        obtain ⟨command, built, acted⟩ := bind_ok acted
        have same := Except.ok.inj acted
        cases found : managerCmd manager with
        | none =>
            rw [buildInstallCommand, found] at built
            cases built
        | some verb =>
            rw [buildInstallCommand_eq found valid] at built
            have shown := Except.ok.inj built
            refine .inr ⟨command, by rw [← same], ?_⟩
            rw [← shown]
            exact installLine_of_inert found (inert_of_valid valid)
      · have same := Except.ok.inj acted
        exact .inl (by rw [← same])

theorem classify_commands (returned : classify machine res boundDriver lines files host managers kb = .ok diagnosis) :
    InstallOnly diagnosis.recommendedAction.commands ∧ (unidentified res = false → ∀ file,
        Keyed.Least (Blocking (primaryModule res boundDriver)) files file → file.1 = []) ∨
      unidentified res = false ∧ ∃ file, Keyed.Least (Blocking (primaryModule res boundDriver)) files file ∧
        file.1 ≠ [] ∧
        diagnosis.recommendedAction.commands = [inspectCommand (primaryModule res boundDriver) file.1] := by
  rw [classify_eq] at returned
  obtain ⟨failures, _, returned⟩ := bind_ok returned
  by_cases clear : Clear res boundDriver files
  · have unnamed : ∀ file, Keyed.Least (Blocking (primaryModule res boundDriver)) files file → file.1 = [] := by
      intro file least
      by_contra nonempty
      exact not_clear_of_least nonempty least clear
    refine .inl ⟨?_, fun _ => unnamed⟩
    cases missing : missingIn host (shownModule res boundDriver)
        ((kb.getD machine.chipsetKb).entryByName res.chipsetId.chipset) failures with
    | some file =>
        rw [verdict_missing clear missing] at returned
        obtain ⟨action, acted, returned⟩ := bind_ok returned
        rw [← Except.ok.inj returned]
        exact fileAction_installOnly acted
    | none =>
        rw [verdict_driver clear missing] at returned
        rw [← Except.ok.inj returned]
        exact .inl (classifyDriver_commands _)
  · rw [verdict_unclear clear] at returned
    rw [← Except.ok.inj returned]
    cases named : unidentified res with
    | true =>
        rw [closedVerdict, if_pos named]
        exact .inl ⟨.inl rfl, fun named => by cases named⟩
    | false =>
        have blocked : truthy (blacklisted (primaryModule res boundDriver) files) = true := by
          by_contra unblocked
          exact clear ⟨named, Bool.eq_false_of_not_eq_true unblocked⟩
        obtain ⟨file, least, nonempty⟩ := truthy_blacklisted_iff_least.mp blocked
        refine .inr ⟨rfl, file, least, nonempty, ?_⟩
        rw [closedVerdict_of_least named least]
        rfl

/-- What reaches the inspection is a module name and a path of one line. -/
def InspectionValidated (res : DiagnosisInput) (boundDriver : Option Str) (files : List (Str × Str)) : Prop :=
  unidentified res = false → ∀ file, Keyed.Least (Blocking (primaryModule res boundDriver)) files file →
    file.1 ≠ [] → isModuleName (formatOption (primaryModule res boundDriver)) = true ∧ OneLine file.1

/-- The commands are validated exactly when the inspected module and file are. -/
theorem commands_validated_iff
    (returned : classify machine res boundDriver lines files host managers kb = .ok diagnosis) :
    (∀ command ∈ diagnosis.recommendedAction.commands, Validated (primaryModule res boundDriver) command) ↔
      InspectionValidated res boundDriver files := by
  rcases classify_commands returned with ⟨install, pathless⟩ | ⟨named, file, least, nonempty, same⟩
  · refine ⟨fun _ named file least nonempty => absurd (pathless named file least) nonempty, fun _ => ?_⟩
    rcases install with none | ⟨command, one, line⟩
    · rw [none]
      exact List.forall_mem_nil _
    · rw [one, List.forall_mem_singleton]
      exact InstallLine.validated line
  · rw [same, List.forall_mem_singleton, validated_inspectCommand]
    constructor
    · intro validated _ file' least' _
      rw [← least.key_eq least']
      exact validated
    · intro validated
      exact validated named file least nonempty

end Runs

theorem commands_validated_blocked :
    ∃ diagnosis, @classify asciiInterpreter bareMachine unboundInput none [] [confFile "blacklist mt7601u\n"]
        none none (some mt7601uKb) = .ok diagnosis ∧
      ∀ command ∈ diagnosis.recommendedAction.commands, Validated (primaryModule unboundInput none) command := by
  let _ : Interpreter := asciiInterpreter
  have returned : classify bareMachine unboundInput none [] [confFile "blacklist mt7601u\n"] none none
      (some mt7601uKb) = .ok _ := rfl
  refine ⟨_, returned, (commands_validated_iff returned).mpr fun _ file least _ => ?_⟩
  rw [List.mem_singleton.mp least.member]
  exact ⟨by decide +kernel, by decide +kernel⟩

/-- The second line of the path is a line of the command. -/
theorem inspected_path_broken :
    ∃ diagnosis command, @classify asciiInterpreter bareMachine unboundInput none []
        [("/etc/modprobe.d/a\nreboot\n.conf", "blacklist mt7601u\n")] none none (some mt7601uKb) = .ok diagnosis ∧
      command ∈ diagnosis.recommendedAction.commands ∧ ¬ OneLine command := by
  let _ : Interpreter := asciiInterpreter
  have returned : classify bareMachine unboundInput none []
      [("/etc/modprobe.d/a\nreboot\n.conf", "blacklist mt7601u\n")] none none (some mt7601uKb) = .ok _ := rfl
  exact ⟨_, _, returned, List.mem_singleton_self _, by decide +kernel⟩

end DongleRescue.Diagnostics
