import DongleRescue.Cli.Rollback
import DongleRescue.Repair.JournalShapes

namespace DongleRescue.Cli

open DongleRescue.Data DongleRescue.Repair

/-! The history command, and what the commands that read the journal make of a damaged
one. -/

section Commands

variable [Interpreter]

/-- `value.get(key, default)`. -/
def pyGetOr (key : Str) (default : Json) : Json → Py Json
  | .dict items => .ok ((Json.lookup key items).getD default)
  | _ => .error (.attributeError "get")

def historyLine (rec : TransactionRecord) : Py Str := do
  let short ← shortId rec.transactionId
  let change ← pyGetOr "op" (.str "?") rec.change
  let rollback ← pyGetOr "op" (.str "?") rec.rollbackAction
  return "  " ++ short ++ "  " ++ change.formatted ++ "  rollback=" ++ rollback.formatted

def historyText (lines : List Str) : Str := join "\n" ("transactions:" :: lines) ++ ['\n']

/-- Of the failures of a load, only a `ValueError` is answered. -/
def cmdHistory (loads : Loads) (file : Journal.File) (journalPath : Option Str) : Py (Nat × Str) :=
  if !truthy journalPath then .ok (exitOk, "no transactions (no journal configured)\n")
  else match Journal.loadFile loads file with
    | .error (.valueError message) => .ok (exitNotFound, "history error: " ++ message ++ ['\n'])
    | .error failure => .error failure
    | .ok [] => .ok (exitOk, "no transactions recorded yet\n")
    | .ok records => do
        let lines ← records.mapM historyLine
        return (exitOk, historyText lines)

def rollbackFile (loads : Loads) (file : Journal.File) (rest : List Str) (journalPath : Option Str) :
    Py (Nat × Str) :=
  rollbackWith (Journal.loadFile loads file) rest journalPath

theorem rollbackFile_decoded {loads : Loads} {content : Journal.Content} {rest : List Str}
    {journalPath : Option Str} :
    rollbackFile loads (.decoded content) rest journalPath = cmdRollback loads content rest journalPath := rfl

end Commands

/-- An id that can be cut, and two dicts. -/
structure Listable (rec : TransactionRecord) : Prop where
  transactionId : (∃ text, rec.transactionId = .str text) ∨ ∃ items, rec.transactionId = .list items
  change : ∃ items, rec.change = .dict items
  rollbackAction : ∃ items, rec.rollbackAction = .dict items

section Listing

variable [Interpreter] {key : Str} {value default : Json} {rec : TransactionRecord}
  {records : List TransactionRecord}

theorem shortId_returns_iff :
    (∃ short, shortId value = .ok short) ↔ (∃ text, value = .str text) ∨ ∃ items, value = .list items := by
  cases value with
  | str text => simp [shortId]
  | list items => simp [shortId]
  | _ => simp [shortId]

omit [Interpreter] in
theorem pyGetOr_returns_iff :
    (∃ found, pyGetOr key default value = .ok found) ↔ ∃ items, value = .dict items := by
  cases value with
  | dict items => simp [pyGetOr]
  | _ => simp [pyGetOr]

theorem historyLine_returns_iff : (∃ line, historyLine rec = .ok line) ↔ Listable rec := by
  constructor
  · intro ⟨line, listed⟩
    rw [historyLine] at listed
    obtain ⟨short, shown, listed⟩ := bind_ok listed
    obtain ⟨change, readChange, listed⟩ := bind_ok listed
    obtain ⟨rollback, readRollback, _⟩ := bind_ok listed
    exact ⟨shortId_returns_iff.mp ⟨_, shown⟩, pyGetOr_returns_iff.mp ⟨_, readChange⟩,
      pyGetOr_returns_iff.mp ⟨_, readRollback⟩⟩
  · intro listable
    obtain ⟨short, shown⟩ := shortId_returns_iff.mpr listable.transactionId
    obtain ⟨change, readChange⟩ : ∃ found, pyGetOr "op" (.str "?") rec.change = .ok found :=
      pyGetOr_returns_iff.mpr listable.change
    obtain ⟨rollback, readRollback⟩ : ∃ found, pyGetOr "op" (.str "?") rec.rollbackAction = .ok found :=
      pyGetOr_returns_iff.mpr listable.rollbackAction
    rw [historyLine, shown, readChange, readRollback]
    exact ⟨_, rfl⟩

theorem historyLines_return_iff :
    (∃ lines, records.mapM historyLine = .ok lines) ↔ ∀ rec ∈ records, Listable rec := by
  constructor
  · intro ⟨lines, listed⟩ rec member
    obtain ⟨line, _, shown⟩ := exists_of_mem_left (forall₂_of_mapM listed) member
    exact historyLine_returns_iff.mp ⟨line, shown⟩
  · intro listable
    exact mapM_returns fun rec member => historyLine_returns_iff.mpr (listable rec member)

end Listing

/-- The command returns, with an exit code it documents. -/
def Answers (result : Py (Nat × Str)) : Prop :=
  ∃ code text, result = .ok (code, text) ∧ (code = exitOk ∨ code = exitNotFound)

section Survival

variable [Interpreter]

/-- Loading the journal fails as `Journal.load` makes a corrupt line fail. -/
def Corrupt (loads : Loads) (file : Journal.File) : Prop :=
  ∃ message, Journal.loadFile loads file = .error (.valueError message)

def HistoryReports (loads : Loads) (file : Journal.File) (journalPath : Option Str) : Prop :=
  Corrupt loads file ∧ ∃ text, cmdHistory loads file journalPath = .ok (exitNotFound, text)

/-- With no argument the command does not look at the journal. -/
def RollbackReports (loads : Loads) (file : Journal.File) (journalPath : Option Str) : Prop :=
  Corrupt loads file ∧ ∀ wanted rest,
    ∃ text, rollbackFile loads file (wanted :: rest) journalPath = .ok (exitNotFound, text)

/-- Both commands answer, and they agree on which configured journals are corrupt. -/
structure Survives (loads : Loads) (file : Journal.File) (rest : List Str) (journalPath : Option Str) :
    Prop where
  history : Answers (cmdHistory loads file journalPath)
  rollback : Answers (rollbackFile loads file rest journalPath)
  agree : truthy journalPath = true →
    (HistoryReports loads file journalPath ↔ RollbackReports loads file journalPath)

/-- Every line that is not blank holds a record that can be listed; where an id is asked for,
every id is a text, and the first transaction it names can be undone. -/
structure Intact (loads : Loads) (content : Journal.Content) (rest : List Str)
    (records : List TransactionRecord) : Prop where
  stored : List.Forall₂ (Journal.Stored loads) (Journal.storedLines content) records
  listable : ∀ rec ∈ records, Listable rec
  texts : ∀ wanted ∈ rest.head?, ∀ rec ∈ records, ∃ text, rec.transactionId = .str text
  undoable : ∀ wanted ∈ rest.head?, ∀ rec, records.find? (named wanted) = some rec →
    Undoable rec.rollbackAction

variable {loads : Loads} {file : Journal.File} {content : Journal.Content} {rest : List Str}
  {wanted : Str} {journalPath : Option Str} {records : List TransactionRecord} {failure : PyError}

omit [Interpreter] in
theorem answers_iff {result : Py (Nat × Str)} :
    Answers result ↔ (∃ text, result = .ok (exitOk, text)) ∨ ∃ text, result = .ok (exitNotFound, text) := by
  constructor
  · rintro ⟨code, text, returned, same | same⟩
    · exact .inl ⟨text, by rw [returned, same]⟩
    · exact .inr ⟨text, by rw [returned, same]⟩
  · rintro (⟨text, returned⟩ | ⟨text, returned⟩)
    · exact ⟨_, text, returned, .inl rfl⟩
    · exact ⟨_, text, returned, .inr rfl⟩

omit [Interpreter] in
theorem not_answers_error : ¬ Answers (.error failure) := by
  rintro ⟨code, text, returned, _⟩
  cases returned

theorem cmdHistory_answers_iff (configured : truthy journalPath = true)
    (loaded : Journal.loadFile loads file = .ok records) :
    Answers (cmdHistory loads file journalPath) ↔ ∀ rec ∈ records, Listable rec := by
  rw [cmdHistory, configured, loaded, ← historyLines_return_iff]
  cases records with
  | nil =>
      have empty : ([] : List TransactionRecord).mapM historyLine = .ok [] := rfl
      simp [empty, answers_iff]
  | cons rec records =>
      cases listed : (rec :: records).mapM historyLine with
      | error failure => simp [listed, bind, Except.bind, not_answers_error]
      | ok lines => simp [listed, bind, Except.bind, pure, Except.pure, answers_iff]

theorem rollbackFile_answers_iff (configured : truthy journalPath = true)
    (loaded : Journal.loadFile loads file = .ok records) :
    Answers (rollbackFile loads file (wanted :: rest) journalPath) ↔
      (∀ rec ∈ records, ∃ text, rec.transactionId = .str text) ∧
        ∀ rec, records.find? (named wanted) = some rec → Undoable rec.rollbackAction := by
  simp only [rollbackFile, rollbackWith, configured, loaded, Bool.not_true, Bool.false_eq_true, if_false, bind,
    Except.bind]
  cases matched : matching wanted records with
  | error failure =>
      refine ⟨fun answers => absurd answers not_answers_error, fun both => ?_⟩
      have texts := both.1
      rw [matching_ok_iff.mpr ⟨texts, rfl⟩] at matched
      cases matched
  | ok found =>
      obtain ⟨texts, filtered⟩ := matching_ok_iff.mp matched
      rw [← List.head?_filter, ← filtered]
      cases found with
      | nil => exact ⟨fun _ => ⟨texts, by simp⟩, fun _ => answers_iff.mpr (.inr ⟨_, rfl⟩)⟩
      | cons rec others =>
          have member : rec ∈ records.filter (named wanted) := by
            rw [← filtered]
            exact List.mem_cons_self
          obtain ⟨id, text⟩ := texts rec (List.mem_of_mem_filter member)
          have shown : shortId rec.transactionId = .ok (id.take 12) := by rw [text, shortId]
          simp only [List.head?_cons, Option.some.injEq, forall_eq']
          rw [← planRollback_returns_iff]
          cases planned : planRollback rec with
          | error failure =>
              refine ⟨fun answers => absurd answers not_answers_error, ?_⟩
              rintro ⟨_, _, undone⟩
              cases undone
          | ok steps =>
              simp only [shown]
              exact ⟨fun _ => ⟨texts, steps, rfl⟩, fun _ => answers_iff.mpr (.inl ⟨_, rfl⟩)⟩

/-- A load that fails is an exception of the rollback command, whatever the argument. -/
theorem rollbackFile_of_failure (configured : truthy journalPath = true)
    (failed : Journal.loadFile loads file = .error failure) :
    rollbackFile loads file (wanted :: rest) journalPath = .error failure := by
  simp only [rollbackFile, rollbackWith, configured, failed, Bool.not_true, Bool.false_eq_true, if_false, bind,
    Except.bind]

omit [Interpreter] in
theorem loadFile_ok_iff : Journal.loadFile loads file = .ok records ↔
    ∃ content, file = .decoded content ∧
      List.Forall₂ (Journal.Stored loads) (Journal.storedLines content) records := by
  cases file with
  | decoded content => simp [Journal.loadFile, Journal.load_ok_iff]
  | undecodable detail => simp [Journal.loadFile]

theorem loaded_of_survives (configured : truthy journalPath = true)
    (survives : Survives loads file rest journalPath) :
    ∃ records, Journal.loadFile loads file = .ok records := by
  cases loading : Journal.loadFile loads file with
  | ok records => exact ⟨records, rfl⟩
  | error failure =>
      exfalso
      have answers := survives.history
      rw [cmdHistory, configured, loading] at answers
      cases failure with
      | valueError message =>
          have reported : HistoryReports loads file journalPath := by
            refine ⟨⟨message, loading⟩, ?_⟩
            rw [cmdHistory, configured, loading]
            exact ⟨_, rfl⟩
          obtain ⟨_, reports⟩ := (survives.agree configured).mp reported
          obtain ⟨text, returned⟩ := reports [] []
          rw [rollbackFile_of_failure configured loading] at returned
          cases returned
      | _ => exact not_answers_error answers

theorem Survives.intact (configured : truthy journalPath = true)
    (survives : Survives loads file rest journalPath) :
    ∃ content records, file = .decoded content ∧ Intact loads content rest records := by
  obtain ⟨records, loaded⟩ := loaded_of_survives configured survives
  obtain ⟨content, decoded, stored⟩ := loadFile_ok_iff.mp loaded
  have listable := (cmdHistory_answers_iff configured loaded).mp survives.history
  refine ⟨content, records, decoded, stored, listable, ?_, ?_⟩
  · intro wanted chosen
    have answers := survives.rollback
    rw [← List.cons_head?_tail chosen, rollbackFile_answers_iff configured loaded] at answers
    exact answers.1
  · intro wanted chosen
    have answers := survives.rollback
    rw [← List.cons_head?_tail chosen, rollbackFile_answers_iff configured loaded] at answers
    exact answers.2

theorem Intact.survives (configured : truthy journalPath = true)
    (intact : Intact loads content rest records) : Survives loads (.decoded content) rest journalPath := by
  have loaded : Journal.loadFile loads (.decoded content) = .ok records :=
    loadFile_ok_iff.mpr ⟨content, rfl, intact.stored⟩
  have sound : ¬ Corrupt loads (.decoded content) := by
    rintro ⟨message, failed⟩
    rw [loaded] at failed
    cases failed
  refine ⟨(cmdHistory_answers_iff configured loaded).mpr intact.listable, ?_, fun _ => ?_⟩
  · cases rest with
    | nil => exact answers_iff.mpr (.inr ⟨_, rfl⟩)
    | cons wanted rest =>
        rw [rollbackFile_answers_iff configured loaded]
        exact ⟨intact.texts wanted rfl, intact.undoable wanted rfl⟩
  · exact ⟨fun reports => absurd reports.1 sound, fun reports => absurd reports.1 sound⟩

theorem survives_unconfigured (unconfigured : truthy journalPath = false) :
    Survives loads file rest journalPath := by
  refine ⟨?_, ?_, fun configured => ?_⟩
  · rw [cmdHistory, unconfigured]
    exact answers_iff.mpr (.inl ⟨_, rfl⟩)
  · cases rest with
    | nil => exact answers_iff.mpr (.inr ⟨_, rfl⟩)
    | cons wanted rest =>
        rw [rollbackFile, rollbackWith, unconfigured]
        exact answers_iff.mpr (.inr ⟨_, rfl⟩)
  · rw [unconfigured] at configured
    cases configured

/-- The commands survive the journals of intact records, and no others. -/
theorem journal_commands_survive_iff : Survives loads file rest journalPath ↔
    (truthy journalPath = true → ∃ content records, file = .decoded content ∧
      Intact loads content rest records) := by
  constructor
  · exact fun survives configured => survives.intact configured
  · intro whole
    cases configured : truthy journalPath with
    | false => exact survives_unconfigured configured
    | true =>
        obtain ⟨content, records, decoded, intact⟩ := whole configured
        rw [decoded]
        exact intact.survives configured

omit [Interpreter] in
/-- A corrupt line is an error message of one command and an exception of the other; an object
without the fields is an exception of the history too. -/
theorem corrupt_line_is_not_answered :
    @cmdHistory asciiInterpreter readLoads (.decoded (some "garbage\n")) (some "journal.jsonl") =
        .ok (4, "history error: journal corrupt at line 1: Expecting value: line 1 column 1 (char 0)\n") ∧
      @rollbackFile asciiInterpreter readLoads (.decoded (some "garbage\n")) ["abc"]
          (some "journal.jsonl") =
        .error (.valueError "journal corrupt at line 1: Expecting value: line 1 column 1 (char 0)") ∧
      @cmdHistory asciiInterpreter readLoads (.decoded (some "\x7b\x7d\n")) (some "journal.jsonl") =
        .error (.keyError "transaction_id") ∧
      ¬ @Survives asciiInterpreter readLoads (.decoded (some "garbage\n")) ["abc"]
          (some "journal.jsonl") := by
  let _ : Interpreter := asciiInterpreter
  have reported : cmdHistory readLoads (.decoded (some "garbage\n")) (some "journal.jsonl") =
      .ok (4, "history error: journal corrupt at line 1: Expecting value: line 1 column 1 (char 0)\n") := by
    rfl
  have raised : rollbackFile readLoads (.decoded (some "garbage\n")) ["abc"] (some "journal.jsonl") =
      .error (.valueError "journal corrupt at line 1: Expecting value: line 1 column 1 (char 0)") := by
    rfl
  refine ⟨reported, raised, rfl, fun survives => ?_⟩
  have answers := survives.rollback
  rw [raised] at answers
  exact not_answers_error answers

end Survival

end DongleRescue.Cli
