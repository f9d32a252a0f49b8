import DongleRescue.Repair.Journal

namespace DongleRescue.Repair

open DongleRescue.Data DongleRescue.Posix

/-! Which journals load, and which rollback actions have a plan. -/

/-- An object with the five fields of a record. -/
structure Holds (raw : Json) (rec : TransactionRecord) (items : List (Str × Json)) : Prop where
  object : raw = .dict items
  transactionId : Json.lookup "transaction_id" items = some rec.transactionId
  beforeState : Json.lookup "before_state" items = some rec.beforeState
  change : Json.lookup "change" items = some rec.change
  afterState : Json.lookup "after_state" items = some rec.afterState
  rollbackAction : Json.lookup "rollback_action" items = some rec.rollbackAction

section Records

variable {key : Str} {raw value : Json} {rec : TransactionRecord} {items : List (Str × Json)}

theorem subscript_ok_iff :
    subscript key raw = .ok value ↔ ∃ items, raw = .dict items ∧ Json.lookup key items = some value := by
  cases raw with
  | dict items =>
      rw [subscript]
      cases found : Json.lookup key items with
      | none => simp [found]
      | some other => simp [found]
  | _ => simp [subscript]

theorem lookup_of_subscript (read : subscript key (.dict items) = .ok value) :
    Json.lookup key items = some value := by
  obtain ⟨items', same, found⟩ := subscript_ok_iff.mp read
  cases same
  exact found

theorem recordOf_ok_iff : recordOf raw = .ok rec ↔ ∃ items, Holds raw rec items := by
  constructor
  · intro read
    rw [recordOf] at read
    obtain ⟨transactionId, readId, read⟩ := bind_ok read
    obtain ⟨items, object, foundId⟩ := subscript_ok_iff.mp readId
    subst raw
    obtain ⟨beforeState, readBefore, read⟩ := bind_ok read
    obtain ⟨change, readChange, read⟩ := bind_ok read
    obtain ⟨afterState, readAfter, read⟩ := bind_ok read
    obtain ⟨rollbackAction, readRollback, read⟩ := bind_ok read
    cases read
    exact ⟨items, rfl, foundId, lookup_of_subscript readBefore, lookup_of_subscript readChange,
      lookup_of_subscript readAfter, lookup_of_subscript readRollback⟩
  · intro ⟨items, holds⟩
    rw [holds.object, recordOf]
    simp only [subscript, holds.transactionId, holds.beforeState, holds.change, holds.afterState,
      holds.rollbackAction]
    rfl

end Records

namespace Journal

/-- The lines that are read; blank ones are passed over. -/
def storedLines (content : Content) : List Str :=
  (splitlines (universalNewlines (content.getD []))).filter fun line => decide (strip line ≠ [])

/-- The line is a document that holds the record. -/
def Stored (loads : Loads) (line : Str) (rec : TransactionRecord) : Prop :=
  ∃ raw items, loads line = .ok raw ∧ Holds raw rec items

section Lines

variable {loads : Loads} {number : Nat} {line : Str} {lines : List Str} {content : Content}
  {rec : TransactionRecord} {records : List TransactionRecord}

theorem loadLine_ok_iff : loadLine loads number line = .ok rec ↔ Stored loads line rec := by
  rw [loadLine]
  unfold Stored
  cases read : loads line with
  | ok raw => simp [recordOf_ok_iff]
  | error failure =>
      cases failure with
      | decodeError message => simp
      | other failure => simp

theorem loadLines_ok_iff : loadLines loads number lines = .ok records ↔
    List.Forall₂ (Stored loads) (lines.filter fun line => decide (strip line ≠ [])) records := by
  induction lines generalizing number records with
  | nil =>
      rw [loadLines, List.filter_nil, List.forall₂_nil_left_iff, Except.ok.injEq]
      exact eq_comm
  | cons line lines ih =>
      rw [loadLines]
      by_cases blank : strip line = []
      · rw [if_pos blank, List.filter_cons_of_neg (by simp [blank]), ih]
      · rw [if_neg blank, List.filter_cons_of_pos (by simp [blank])]
        constructor
        · intro loaded
          obtain ⟨rec, first, loaded⟩ := bind_ok loaded
          obtain ⟨later, rest, loaded⟩ := bind_ok loaded
          cases loaded
          exact .cons (loadLine_ok_iff.mp first) (ih.mp rest)
        · intro stored
          cases stored with
          | cons first rest =>
              rw [loadLine_ok_iff.mpr first, ih.mpr rest]
              rfl

theorem load_ok_iff :
    load loads content = .ok records ↔ List.Forall₂ (Stored loads) (storedLines content) records := by
  cases content with
  | none =>
      have empty : storedLines none = [] := rfl
      rw [load, empty, List.forall₂_nil_left_iff, Except.ok.injEq]
      exact eq_comm
  | some text => exact loadLines_ok_iff

end Lines

end Journal

section Actions

/-- What `restore_if_existed` may be: false, or a dict. -/
def Restorable (restore : Json) : Prop := restore.truthy = true → ∃ items, restore = .dict items

/-- The fields of a dict, where an absent one is null. -/
def field (key : Str) (items : List (Str × Json)) : Json := (Json.lookup key items).getD .null

/-- The actions that can be undone: every operation with fields that are valid for it. -/
inductive Undoable : Json → Prop where
  | noop {items : List (Str × Json)} (op : field "op" items = .str "noop") : Undoable (.dict items)
  | removeFile {items : List (Str × Json)} {path : Str} (op : field "op" items = .str "remove_file")
      (target : field "path" items = .str path) (absolute : startsWith path "/" = true) (normalized : normpath path = path)
      (restorable : Restorable (field "restore_if_existed" items)) : Undoable (.dict items)
  | removeNewId {items : List (Str × Json)} {driver vidPid : Str}
      (op : field "op" items = .str "remove_new_id") (named : field "driver" items = .str driver)
      (pair : field "vid_pid" items = .str vidPid) (validName : isModuleName driver = true)
      (validPair : isVidPid vidPid = true) : Undoable (.dict items)

variable [Interpreter] {key : Str} {items : List (Str × Json)} {rec : TransactionRecord}

omit [Interpreter] in
theorem pyGet_dict : pyGet key (.dict items) = .ok (field key items) := rfl

omit [Interpreter] in
theorem pyGet_returns_iff {value : Json} : (∃ found, pyGet key value = .ok found) ↔ ∃ items, value = .dict items := by
  cases value with
  | dict items => simp [pyGet]
  | _ => simp [pyGet]

omit [Interpreter] in
theorem restorable_iff {restore : Json} :
    (∃ digest, pyGet "sha256" (if restore.truthy then restore else .dict []) = .ok digest) ↔ Restorable restore := by
  rw [pyGet_returns_iff]
  unfold Restorable
  cases restore.truthy with
  | true => simp
  | false => simp

theorem planRemoveFile_returns_iff : (∃ steps, planRemoveFile (.dict items) = .ok steps) ↔
    ∃ path, field "path" items = .str path ∧ startsWith path "/" = true ∧ normpath path = path ∧
      Restorable (field "restore_if_existed" items) := by
  constructor
  · intro ⟨steps, planned⟩
    rw [planRemoveFile, pyGet_dict] at planned
    obtain ⟨target, read, planned⟩ := bind_ok planned
    rw [Except.ok.injEq] at read
    cases target with
    | str path =>
        simp only [pyGet_dict] at planned
        split at planned
        · rename_i valid
          obtain ⟨restore, readRestore, planned⟩ := bind_ok planned
          cases readRestore
          obtain ⟨digest, readDigest, _⟩ := bind_ok planned
          exact ⟨path, read, valid.1, valid.2, restorable_iff.mp ⟨digest, readDigest⟩⟩
        · cases planned
    | _ => cases planned
  · intro ⟨path, target, absolute, normalized, restorable⟩
    obtain ⟨digest, readDigest⟩ := restorable_iff.mpr restorable
    simp only [planRemoveFile, pyGet_dict, target, bind, Except.bind, absolute, normalized, readDigest, and_self,
      if_true]
    exact ⟨_, rfl⟩

theorem planRemoveNewId_returns_iff : (∃ steps, planRemoveNewId (.dict items) = .ok steps) ↔
    ∃ driver vidPid, field "driver" items = .str driver ∧ field "vid_pid" items = .str vidPid ∧
      isModuleName driver = true ∧ isVidPid vidPid = true := by
  constructor
  · intro ⟨steps, planned⟩
    rw [planRemoveNewId, pyGet_dict] at planned
    obtain ⟨driver, readDriver, planned⟩ := bind_ok planned
    rw [Except.ok.injEq] at readDriver
    rw [pyGet_dict] at planned
    obtain ⟨vidPid, readPair, planned⟩ := bind_ok planned
    rw [Except.ok.injEq] at readPair
    split at planned
    · obtain ⟨module, accepted, planned⟩ := bind_ok planned
      obtain ⟨_, validName⟩ := requireModuleName_ok accepted
      split at planned
      · rename_i validPair
        exact ⟨_, _, readDriver, readPair, validName, validPair⟩
      · cases planned
    · cases planned
  · intro ⟨driver, vidPid, named, pair, validName, validPair⟩
    cases driver with
    | nil => cases validName
    | cons c rest =>
        simp only [planRemoveNewId, pyGet_dict, named, pair, bind, Except.bind, requireModuleName, validName,
          validPair, if_true]
        exact ⟨_, rfl⟩

theorem planRollback_returns_iff : (∃ steps, planRollback rec = .ok steps) ↔ Undoable rec.rollbackAction := by
  constructor
  · intro ⟨steps, planned⟩
    rw [planRollback] at planned
    obtain ⟨op, readOp, planned⟩ := bind_ok planned
    obtain ⟨items, object⟩ := pyGet_returns_iff.mp ⟨op, readOp⟩
    rw [object, pyGet_dict, Except.ok.injEq] at readOp
    rw [object] at planned ⊢
    cases op with
    | str text =>
        simp only at planned
        split at planned
        · rename_i same
          subst same
          exact .noop readOp
        · split at planned
          · rename_i same
            subst same
            obtain ⟨path, target, absolute, normalized, restorable⟩ := planRemoveFile_returns_iff.mp ⟨_, planned⟩
            exact .removeFile readOp target absolute normalized restorable
          · split at planned
            · rename_i same
              subst same
              obtain ⟨driver, vidPid, named, pair, validName, validPair⟩ :=
                planRemoveNewId_returns_iff.mp ⟨_, planned⟩
              exact .removeNewId readOp named pair validName validPair
            · cases planned
    | _ => cases planned
  · intro undoable
    generalize object : rec.rollbackAction = action at undoable
    cases undoable with
    | noop op =>
        rw [planRollback, object, pyGet_dict, op]
        exact ⟨_, rfl⟩
    | removeFile op target absolute normalized restorable =>
        have read : pyGet "op" rec.rollbackAction = .ok (.str "remove_file") := by rw [object, pyGet_dict, op]
        rw [planRollback_removeFile read, object]
        exact planRemoveFile_returns_iff.mpr ⟨_, target, absolute, normalized, restorable⟩
    | removeNewId op named pair validName validPair =>
        have read : pyGet "op" rec.rollbackAction = .ok (.str "remove_new_id") := by rw [object, pyGet_dict, op]
        have planned : planRollback rec = planRemoveNewId rec.rollbackAction := by
          rw [planRollback, read]
          rfl
        rw [planned, object]
        exact planRemoveNewId_returns_iff.mpr ⟨_, _, named, pair, validName, validPair⟩

end Actions

end DongleRescue.Repair
