import DongleRescue.Posix.Join
import DongleRescue.Repair.JournalRuns
import DongleRescue.Repair.JournalShapes

namespace DongleRescue.Repair

open DongleRescue.Data DongleRescue.Posix

/-! What the plan of an arbitrary record may aim at.  Normalization alone does not make a path
clean: the root and a path with two leading slashes are normalized too. -/

/-- Absolute, and each component after the leading slash is a name. -/
def CleanPath (path : Str) : Prop := ∃ rest, path = '/' :: rest ∧ ∀ name ∈ names rest, CleanName name

def VidPid (text : Str) : Prop := ∃ vid pid, IsHex4 vid ∧ IsHex4 pid ∧ text = vid ++ ':' :: pid

inductive ValidTarget : RollbackAction → Prop where
  | noop : ValidTarget .noop
  | removeFile {path note : Str} {restoreSha256 : Json} (clean : CleanPath path) :
      ValidTarget (.removeFile path note restoreSha256)
  | removeNewId {driver vidPid note : Str} (named : isModuleName driver = true) (pair : VidPid vidPid) :
      ValidTarget (.removeNewId driver vidPid note)

/-- Refused as a value, or one guarded step with a valid target. -/
inductive Validated : Py (List RollbackStep) → Prop where
  | refused (message : Str) : Validated (.error (.valueError message))
  | planned {step : RollbackStep} (guarded : step.ifPresent = true) (target : ValidTarget step.action) :
      Validated (.ok [step])

section Targets

variable {path text : Str}

theorem cleanPath_iff (absolute : startsWith path "/" = true) (normalized : normpath path = path) :
    CleanPath path ↔ path ≠ "/" ∧ startsWith path "//" = false := by
  constructor
  · rintro ⟨rest, same, clean⟩
    have nonempty : [] ∉ names rest := fun member => (clean [] member).1 rfl
    rw [same]
    cases rest with
    | nil => exact absurd (by simp [names]) nonempty
    | cons c more =>
        refine ⟨by simp, ?_⟩
        have other : ('/' == c) = false := by
          refine beq_false_of_ne fun slash => nonempty ?_
          have split := names_append_slash [] more
          rw [← slash, ← List.nil_append ('/' :: more), split, names_of_no_slash List.not_mem_nil]
          simp
        simp [startsWith, List.isPrefixOf, other]
  · rintro ⟨notRoot, single⟩
    have normal : NormalRoot path := ⟨absolute, normalized⟩
    obtain ⟨count, location, counts, clean, same⟩ := normal.shape
    rcases counts with one | two
    · rw [one] at same
      refine ⟨join ['/'] location, same, ?_⟩
      have nonempty : location ≠ [] := by
        intro empty
        rw [empty] at same
        exact notRoot same
      rw [names_join nonempty fun name member => (clean name member).2.2.2]
      exact clean
    · rw [same, two] at single
      simp [startsWith, List.replicate] at single

theorem vidPid_of_isVidPid (valid : isVidPid text = true) : VidPid text := by
  simp only [isVidPid, Bool.and_eq_true, decide_eq_true_eq, List.all_eq_true] at valid
  obtain ⟨⟨⟨length, vid⟩, colon⟩, pid⟩ := valid
  refine ⟨text.take 4, text.drop 5, ⟨by simp [length], vid⟩, ⟨by simp [length], pid⟩, ?_⟩
  obtain ⟨rest, split⟩ := List.head?_eq_some_iff.mp colon
  have later : rest = text.drop 5 := by
    have tail := congrArg List.tail split
    rwa [List.tail_drop, List.tail_cons, eq_comm] at tail
  rw [← later, ← split, List.take_append_drop]

end Targets

section Plans

variable [Interpreter] {items : List (Str × Json)} {path : Str}

omit [Interpreter] in
theorem pyGet_error {key : Str} {value : Json} {failure : PyError} (raised : pyGet key value = .error failure) :
    failure = .attributeError "get" := by
  cases value with
  | dict items => cases raised
  | _ => exact (Except.error.inj raised).symm

/-- The file of a removal has more than the root in its path, from one slash on, and the digest to
restore it by is in a dict. -/
def Removable (items : List (Str × Json)) : Prop :=
  ∀ path, field "path" items = .str path → startsWith path "/" = true → normpath path = path →
    path ≠ "/" ∧ startsWith path "//" = false ∧ Restorable (field "restore_if_existed" items)

theorem planRemoveFile_of_valid (target : field "path" items = .str path) (absolute : startsWith path "/" = true)
    (normalized : normpath path = path) : planRemoveFile (.dict items) = do
      let restoreSha256 ← pyGet "sha256" (if (field "restore_if_existed" items).truthy then
        field "restore_if_existed" items else .dict [])
      return [⟨1, .removeFile path "restore only if before-state says it existed" restoreSha256, true⟩] := by
  simp only [planRemoveFile, pyGet_dict, target, bind, Except.bind, absolute, normalized, and_self, if_true]

/-- Where the path is no normalized absolute one, the plan is refused as a value. -/
theorem planRemoveFile_of_invalid (invalid : ¬ ∃ path, field "path" items = .str path ∧
    startsWith path "/" = true ∧ normpath path = path) :
    ∃ message, planRemoveFile (.dict items) = .error (.valueError message) := by
  rw [planRemoveFile, pyGet_dict]
  cases target : field "path" items with
  | str path =>
      have refused : ¬ (startsWith path "/" = true ∧ normpath path = path) := fun valid => invalid ⟨path, target, valid⟩
      exact ⟨_, if_neg refused⟩
  | _ => exact ⟨_, rfl⟩

omit [Interpreter] in
theorem validated_iff_of_ok {step : RollbackStep} :
    Validated (.ok [step]) ↔ step.ifPresent = true ∧ ValidTarget step.action := by
  constructor
  · intro validated
    cases validated with
    | planned guarded target => exact ⟨guarded, target⟩
  · intro ⟨guarded, target⟩
    exact .planned guarded target

omit [Interpreter] in
theorem validTarget_removeFile_iff {note : Str} {restoreSha256 : Json} :
    ValidTarget (.removeFile path note restoreSha256) ↔ CleanPath path := by
  constructor
  · intro target
    cases target with
    | removeFile clean => exact clean
  · exact .removeFile

theorem planRemoveFile_validated_iff : Validated (planRemoveFile (.dict items)) ↔ Removable items := by
  by_cases valid : ∃ path, field "path" items = .str path ∧ startsWith path "/" = true ∧ normpath path = path
  · obtain ⟨path, target, absolute, normalized⟩ := valid
    have removable : Removable items ↔ CleanPath path ∧ Restorable (field "restore_if_existed" items) := by
      rw [cleanPath_iff absolute normalized, and_assoc]
      constructor
      · intro removable
        exact removable path target absolute normalized
      · intro clean path' target' _ _
        rw [target] at target'
        cases target'
        exact clean
    rw [planRemoveFile_of_valid target absolute normalized, removable, ← restorable_iff]
    cases read : pyGet "sha256" (if (field "restore_if_existed" items).truthy then
        field "restore_if_existed" items else .dict []) with
    | ok restoreSha256 =>
        refine validated_iff_of_ok.trans ?_
        rw [validTarget_removeFile_iff]
        exact ⟨fun planned => ⟨planned.2, restoreSha256, rfl⟩, fun planned => ⟨rfl, planned.1⟩⟩
    | error failure =>
        rw [pyGet_error read]
        constructor
        · intro validated
          cases validated
        · rintro ⟨_, _, none⟩
          cases none
  · obtain ⟨message, refused⟩ := planRemoveFile_of_invalid valid
    rw [refused]
    refine ⟨fun _ path target absolute normalized => ?_, fun _ => .refused message⟩
    exact absurd ⟨path, target, absolute, normalized⟩ valid

theorem planRemoveNewId_validated : Validated (planRemoveNewId (.dict items)) := by
  simp only [planRemoveNewId, pyGet_dict, bind, Except.bind, requireModuleName]
  split
  · rename_i c driver vidPid _ _
    by_cases named : isModuleName (c :: driver) = true
    · rw [if_pos named]
      by_cases pair : isVidPid vidPid = true
      · simp only [if_pos pair]
        exact .planned rfl (.removeNewId named (vidPid_of_isVidPid pair))
      · simp only [if_neg pair]
        exact .refused _
    · rw [if_neg named]
      exact .refused _
  · exact .refused _

/-- A dict; where it removes a file, one whose path and digest can be used. -/
def Replayable (action : Json) : Prop :=
  ∃ items, action = .dict items ∧ (field "op" items = .str "remove_file" → Removable items)

/-- Every operation other than a removal is validated, or refused as a value. -/
theorem planRollback_validated_of_other {rec : TransactionRecord} {items : List (Str × Json)}
    (object : rec.rollbackAction = .dict items) (other : field "op" items ≠ .str "remove_file") :
    Validated (planRollback rec) := by
  rw [planRollback, object, pyGet_dict]
  cases op : field "op" items with
  | str text =>
      have notRemoval : text ≠ "remove_file" := fun same => other (by rw [op, same])
      simp only [bind, Except.bind, if_neg notRemoval]
      split
      · exact .planned rfl .noop
      · split
        · exact planRemoveNewId_validated
        · exact .refused _
  | _ => exact .refused _

/-- A record has a validated plan, or is refused as a value, exactly when its action is replayable. -/
theorem planRollback_validated_iff (rec : TransactionRecord) :
    Validated (planRollback rec) ↔ Replayable rec.rollbackAction := by
  by_cases object : ∃ items, rec.rollbackAction = .dict items
  · obtain ⟨items, object⟩ := object
    have replayable : Replayable rec.rollbackAction ↔ (field "op" items = .str "remove_file" → Removable items) := by
      constructor
      · rintro ⟨items', object', removable⟩
        rw [object] at object'
        cases object'
        exact removable
      · intro removable
        exact ⟨items, object, removable⟩
    rw [replayable]
    by_cases removal : field "op" items = .str "remove_file"
    · have op : pyGet "op" rec.rollbackAction = .ok (.str "remove_file") := by rw [object, pyGet_dict, removal]
      rw [planRollback_removeFile op, object, planRemoveFile_validated_iff]
      exact ⟨fun removable _ => removable, fun removable => removable removal⟩
    · exact ⟨fun _ same => absurd same removal, fun _ => planRollback_validated_of_other object removal⟩
  · have raised : planRollback rec = .error (.attributeError "get") := by
      rw [planRollback]
      cases read : pyGet "op" rec.rollbackAction with
      | error failure =>
          rw [pyGet_error read]
          rfl
      | ok op => exact absurd (pyGet_returns_iff.mp ⟨op, read⟩) object
    rw [raised]
    constructor
    · intro validated
      cases validated
    · rintro ⟨items, same, _⟩
      exact absurd ⟨items, same⟩ object

end Plans

/-- Two slashes in front, as `json.dumps` writes it. -/
def doubledRecord : TransactionRecord where
  transactionId := .str "1"
  beforeState := .null
  change := .null
  afterState := .null
  rollbackAction := .dict [("op", .str "remove_file"), ("path", .str "//etc/passwd")]

/-- A path with an empty component is planned for removal, and an action that is no dict ends in
another error. -/
theorem doubled_slash_is_planned :
    ∃ step rec, Journal.load readLoads (some (doubledRecord.toDict.dumps ++ "\n")) = .ok [rec] ∧
      @planRollback asciiInterpreter rec = .ok [step] ∧
      step.action = .removeFile "//etc/passwd" "restore only if before-state says it existed" .null ∧
      ¬ Validated (@planRollback asciiInterpreter rec) ∧
      ¬ Validated (@planRollback asciiInterpreter { rec with rollbackAction := .list [] }) := by
  let _ : Interpreter := asciiInterpreter
  have loaded : Journal.load readLoads (some (doubledRecord.toDict.dumps ++ "\n")) = .ok [doubledRecord] := rfl
  have planned : planRollback doubledRecord = .ok [⟨1, .removeFile "//etc/passwd"
      "restore only if before-state says it existed" .null, true⟩] := rfl
  have unclean : ¬ CleanPath "//etc/passwd" := by
    intro clean
    have doubled := ((cleanPath_iff (by decide) (by decide)).mp clean).2
    cases doubled
  refine ⟨_, _, loaded, planned, rfl, ?_, ?_⟩
  · rw [planned]
    intro validated
    exact unclean (validTarget_removeFile_iff.mp (validated_iff_of_ok.mp validated).2)
  · have raised : planRollback { doubledRecord with rollbackAction := .list [] } =
        .error (.attributeError "get") := rfl
    rw [raised]
    intro validated
    cases validated

end DongleRescue.Repair
