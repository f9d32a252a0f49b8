import DongleRescue.Cli.Survival

namespace DongleRescue.Cli

open DongleRescue.Data DongleRescue.Diagnostics DongleRescue.Repair

/-! What a flag changes in the answer of a command: the form of a diagnosis, the refusal
behind a repair plan, and nothing else. -/

/-- The second command line has the flag beside what the first one has. -/
structure Flagged (flag : Flag) (first second : List (Str × Option Str)) : Prop where
  values : ∀ name ≠ flag.text, optValue second name = optValue first name
  others : ∀ name ≠ flag.text, has second name = has first name
  given : has second flag.text = true

/-- The answers of one command line without and with the flag. -/
inductive FlagEffect [Interpreter] (flag : Flag) (cmd : Option Str) : Py (Nat × Str) → Py (Nat × Str) → Prop
  | unchanged {result : Py (Nat × Str)} : FlagEffect flag cmd result result
  | printed {diagnosis : Diagnosis} {plan : Plan} (json : flag = .json)
      (command : cmd = some ("diagnose" : Str) ∨ cmd = some ("report" : Str)) :
      FlagEffect flag cmd (.ok (exitOk, diagnosisText diagnosis plan))
        ((exitOk, ·) <$> diagnosisJson diagnosis plan)
  | refused {out : List Str} (execute : flag = .execute) (command : cmd = some ("repair" : Str)) :
      FlagEffect flag cmd (.ok (exitOk, textLines (out ++ [[], dryRunLine])))
        (.ok (exitRefused, textLines (out ++ [[], refusedLine])))

/-- With the flag a repair never reports success, and a diagnosis that does is a report. -/
structure FlagGiven [Interpreter] (flag : Flag) (cmd : Option Str) (result : Py (Nat × Str)) : Prop where
  refused : flag = .execute → cmd = some ("repair" : Str) → ∀ text, result ≠ .ok (exitOk, text)
  printed : flag = .json → cmd = some ("diagnose" : Str) ∨ cmd = some ("report" : Str) →
    ∀ text, result = .ok (exitOk, text) → ∃ diagnosis plan, diagnosisJson diagnosis plan = .ok text

section Flags

variable {flag : Flag} {before after : List Str} {first second : List (Str × Option Str)}

theorem parse_flagged (valueless : Valueless after) :
    (parse (before ++ flag.text :: after)).positional = (parse (before ++ after)).positional ∧
      Flagged flag (parse (before ++ after)).opts (parse (before ++ flag.text :: after)).opts := by
  obtain ⟨positional, values⟩ := @sameMeaning_of_added flag (parse before) (parse after) none
  rw [parse_insert_valueless valueless, parse_append (.inr valueless)]
  refine ⟨positional, values, ?_, ?_⟩
  · intro name other
    simp [has, option, other.symm]
  · simp [has, option]

theorem Flag.valued_ne (flag : Flag) :
    "--kernel-release" ≠ flag.text ∧ "--device" ≠ flag.text ∧ "--chip" ≠ flag.text ∧
      "--journal" ≠ flag.text := by
  cases flag <;> decide

variable [Interpreter] {machine : Machine} {host : Option Host} {kb : Kb} {cmd : Option Str}

def shownDiagnosis (opts : List (Str × Option Str)) (diagnosis : Diagnosis) (plan : Plan) : Py Str :=
  if has opts "--json" then diagnosisJson diagnosis plan else .ok (diagnosisText diagnosis plan)

/-- The outcomes of a command whose answer, where there is one, is shown by the options. -/
inductive SameButShown {α : Type} (shown : List (Str × Option Str) → α → Py (Nat × Str))
    (first second : List (Str × Option Str)) : Py (Nat × Str) → Py (Nat × Str) → Prop
  | failed (failure : PyError) : SameButShown shown first second (.error failure) (.error failure)
  | refused {code : Nat} {text : Str} (nonzero : code ≠ exitOk) :
      SameButShown shown first second (.ok (code, text)) (.ok (code, text))
  | answered (answer : α) : SameButShown shown first second (shown first answer) (shown second answer)

omit [Interpreter] in
theorem SameButShown.bind {α β : Type} {shown : List (Str × Option Str) → α → Py (Nat × Str)} {asked : Py β}
    {one two : β → Py (Nat × Str)} (same : ∀ value, SameButShown shown first second (one value) (two value)) :
    SameButShown shown first second (asked >>= one) (asked >>= two) := by
  cases asked with
  | error failure => exact .failed failure
  | ok value => exact same value

namespace Flagged

variable (flagged : Flagged flag first second)
include flagged

theorem cmdDiagnose :
    SameButShown (fun opts (both : Diagnosis × Plan) => (exitOk, ·) <$> shownDiagnosis opts both.1 both.2)
      first second (Cli.cmdDiagnose machine first host kb) (Cli.cmdDiagnose machine second host kb) := by
  obtain ⟨release, device, _, _⟩ := flag.valued_ne
  rw [Cli.cmdDiagnose, Cli.cmdDiagnose, flagged.values _ release, flagged.values _ device]
  refine .bind fun picked => ?_
  match host, picked with
  | none, _ => exact .refused (by decide)
  | some _, none => exact .refused (by decide)
  | some _, some _ => exact .bind .answered

theorem cmdRepair :
    SameButShown (fun opts out => .ok (answerRepair opts out)) first second (Cli.cmdRepair machine first host kb)
      (Cli.cmdRepair machine second host kb) := by
  obtain ⟨release, device, chip, _⟩ := flag.valued_ne
  rw [Cli.cmdRepair, Cli.cmdRepair, flagged.values _ release, flagged.values _ device, flagged.values _ chip]
  by_cases named : truthy (optValue first "--chip") = true
  · rw [if_pos named, if_pos named]
    refine .bind fun entry => ?_
    cases entry with
    | none => exact .refused (by decide)
    | some _ =>
        refine .bind fun picked => ?_
        cases picked with
        | none => exact .refused (by decide)
        | some _ => exact .bind .answered
  · rw [if_neg named, if_neg named]
    refine .bind fun picked => ?_
    match host, picked with
    | none, _ => exact .refused (by decide)
    | some _, none => exact .refused (by decide)
    | some _, some _ => exact .bind fun both => .answered (repairLines both.2 (formatConfidence both.2.confidence))

end Flagged

theorem flagEffect_diagnose (flagged : Flagged flag first second)
    (command : cmd = some ("diagnose" : Str) ∨ cmd = some ("report" : Str)) :
    FlagEffect flag cmd (cmdDiagnose machine first host kb) (cmdDiagnose machine second host kb) ∧
      FlagGiven flag cmd (cmdDiagnose machine second host kb) := by
  have notRepair : cmd ≠ some ("repair" : Str) := by
    rcases command with rfl | rfl <;> decide
  have outcome := @Flagged.cmdDiagnose flag first second _ machine host kb flagged
  generalize cmdDiagnose machine first host kb = one at outcome
  generalize cmdDiagnose machine second host kb = two at outcome
  cases outcome with
  | failed failure => exact ⟨.unchanged, fun _ repair => absurd repair notRepair, fun _ _ _ returned => nomatch returned⟩
  | refused nonzero =>
      refine ⟨.unchanged, fun _ repair => absurd repair notRepair, fun _ _ text returned => ?_⟩
      cases returned
      exact absurd rfl nonzero
  | answered both =>
      obtain ⟨diagnosis, plan⟩ := both
      by_cases json : flag = .json
      · subst json
        have shown : shownDiagnosis second diagnosis plan = diagnosisJson diagnosis plan := if_pos flagged.given
        refine ⟨?_, fun _ repair => absurd repair notRepair, fun _ _ text returned => ?_⟩
        · rw [shown, shownDiagnosis]
          by_cases already : has first "--json" = true
          · rw [if_pos already]
            exact .unchanged
          · rw [if_neg already]
            exact .printed rfl command
        · rw [shown] at returned
          obtain ⟨printed, ok, same⟩ := map_ok_iff.mp returned
          cases same
          exact ⟨diagnosis, plan, ok⟩
      · have other : "--json" ≠ flag.text := by
          cases flag <;> first | exact absurd rfl json | decide
        have shown : shownDiagnosis second diagnosis plan = shownDiagnosis first diagnosis plan := by
          rw [shownDiagnosis, shownDiagnosis, flagged.others _ other]
        refine ⟨?_, fun _ repair => absurd repair notRepair, fun isJson => absurd isJson json⟩
        rw [shown]
        exact .unchanged

theorem flagEffect_repair (flagged : Flagged flag first second) (command : cmd = some ("repair" : Str)) :
    FlagEffect flag cmd (cmdRepair machine first host kb) (cmdRepair machine second host kb) ∧
      FlagGiven flag cmd (cmdRepair machine second host kb) := by
  have notReport : ¬ (cmd = some ("diagnose" : Str) ∨ cmd = some ("report" : Str)) := by
    rw [command]
    decide
  have outcome := @Flagged.cmdRepair flag first second _ machine host kb flagged
  generalize cmdRepair machine first host kb = one at outcome
  generalize cmdRepair machine second host kb = two at outcome
  cases outcome with
  | failed failure => exact ⟨.unchanged, fun _ _ _ returned => (nomatch returned), fun _ report => absurd report notReport⟩
  | refused nonzero =>
      refine ⟨.unchanged, fun _ _ text returned => ?_, fun _ report => absurd report notReport⟩
      cases returned
      exact absurd rfl nonzero
  | answered out =>
      by_cases execute : flag = .execute
      · subst execute
        have shown : answerRepair second out = (exitRefused, textLines (out ++ [[], refusedLine])) :=
          if_pos flagged.given
        refine ⟨?_, fun _ _ text returned => ?_, fun _ report => absurd report notReport⟩
        · rw [shown, answerRepair]
          by_cases already : has first "--execute" = true
          · rw [if_pos already]
            exact .unchanged
          · rw [if_neg already]
            exact .refused rfl command
        · rw [shown] at returned
          cases returned
      · have other : "--execute" ≠ flag.text := by
          cases flag <;> first | exact absurd rfl execute | decide
        have shown : answerRepair second out = answerRepair first out := by
          rw [answerRepair, answerRepair, flagged.others _ other]
        refine ⟨?_, fun isExecute => absurd isExecute execute, fun _ report => absurd report notReport⟩
        rw [shown]
        exact .unchanged

theorem flagEffect_other {result : Py (Nat × Str)}
    (notReport : ¬ (cmd = some ("diagnose" : Str) ∨ cmd = some ("report" : Str)))
    (notRepair : cmd ≠ some ("repair" : Str)) : FlagEffect flag cmd result result ∧ FlagGiven flag cmd result :=
  ⟨.unchanged, fun _ repair => absurd repair notRepair, fun _ report => absurd report notReport⟩

/-- A flag where it takes no value changes the answer of a command in two ways only: `--json`
the form of a diagnosis, `--execute` the end of a repair plan, which is then refused. -/
theorem run_flag (runtime : Runtime) (loads : Loads) (journals : Journals) (host : Option Host) (kb : Option Kb)
    (journalPath : Option Str) (valueless : Valueless after) :
    let cmd := (parse (before ++ after)).positional.head?
    FlagEffect flag cmd (run runtime loads journals host kb journalPath (before ++ after))
        (run runtime loads journals host kb journalPath (before ++ flag.text :: after)) ∧
      FlagGiven flag cmd (run runtime loads journals host kb journalPath (before ++ flag.text :: after)) := by
  obtain ⟨positional, flagged⟩ := @parse_flagged flag before after valueless
  obtain ⟨_, device, chip, journal⟩ := flag.valued_ne
  intro cmd
  have command : cmd = (parse (before ++ after)).positional.head? := rfl
  rw [run, run, positional]
  cases words : (parse (before ++ after)).positional with
  | nil =>
      rw [words] at command
      exact flagEffect_other (by simp [command]) (by simp [command])
  | cons word rest =>
      rw [words] at command
      have identify : cmdIdentify (parse (before ++ flag.text :: after)).opts (kb.getD runtime.chipsetKb) =
          cmdIdentify (parse (before ++ after)).opts (kb.getD runtime.chipsetKb) := by
        rw [cmdIdentify, cmdIdentify, flagged.values _ chip]
      have verify : cmdVerify (parse (before ++ flag.text :: after)).opts host =
          cmdVerify (parse (before ++ after)).opts host := by
        cases host with
        | none => rfl
        | some host => rw [cmdVerify, cmdVerify, flagged.values _ device]
      dsimp only
      rw [flagged.values _ journal, identify, verify]
      by_cases diagnose : word = "diagnose"
      · rw [if_pos diagnose, if_pos diagnose]
        exact flagEffect_diagnose flagged (.inl (command.trans (congrArg some diagnose)))
      by_cases repair : word = "repair"
      · subst repair
        exact flagEffect_repair flagged command
      by_cases report : word = "report"
      · subst report
        exact flagEffect_diagnose flagged (.inr command)
      have notReport : ¬ (cmd = some ("diagnose" : Str) ∨ cmd = some ("report" : Str)) := by
        rw [command]
        exact not_or.mpr ⟨fun same => diagnose (Option.some.inj same), fun same => report (Option.some.inj same)⟩
      have notRepair : cmd ≠ some ("repair" : Str) := by
        rw [command]
        exact fun same => repair (Option.some.inj same)
      simp only [if_neg diagnose, if_neg repair, if_neg report]
      exact flagEffect_other notReport notRepair

end Flags

theorem run_flag_execute :
    let _ : Interpreter := asciiInterpreter
    let answer := run bareRuntime readLoads (fun _ => .decoded none) (some (dongleHost goldenAliases)) none none
    FlagEffect .execute (some ("repair" : Str)) (answer ["repair", "--kernel-release", "6.8.0"])
        (answer ["repair", "--execute", "--kernel-release", "6.8.0"]) ∧
      FlagGiven .execute (some ("repair" : Str)) (answer ["repair", "--execute", "--kernel-release", "6.8.0"]) := by
  intro _
  exact @run_flag .execute ["repair"] ["--kernel-release", "6.8.0"] asciiInterpreter bareRuntime readLoads
    (fun _ => .decoded none) (some (dongleHost goldenAliases)) none none (valueless_option (by decide))

end DongleRescue.Cli
