import DongleRescue.Repair.JournalRuns
import DongleRescue.Repair.Persistence

namespace DongleRescue.Cli

open DongleRescue.Data DongleRescue.Repair

/-! The rollback command: it prints the inverse steps of a recorded transaction
and executes none. -/

def exitOk : Nat := 0

def exitNotFound : Nat := 4

/-- The list comprehension; an id that is no text has no `startswith`. -/
def matching (wanted : Str) : List TransactionRecord → Py (List TransactionRecord)
  | [] => .ok []
  | rec :: records =>
      match rec.transactionId with
      | .str text => do
          let found ← matching wanted records
          return if startsWith text wanted then rec :: found else found
      | _ => .error (.attributeError "startswith")

def actionName : RollbackAction → Str
  | .noop => "noop"
  | .removeFile _ _ _ => "remove_file"
  | .removeNewId _ _ _ => "remove_new_id"

def actionTarget : RollbackAction → Str
  | .noop => []
  | .removeFile path _ _ => path
  | .removeNewId _ vidPid _ => vidPid

def stepLine (step : RollbackStep) : Str :=
  "  step " ++ decimal step.seq ++ ": " ++ actionName step.action ++ ' ' :: actionTarget step.action ++
    "  if_present=" ++ (if step.ifPresent then "True" else "False")

def rollbackText (shortId : Str) (steps : List RollbackStep) : Str :=
  join "\n" (("Rollback plan for " ++ shortId ++ " (nothing executed):") :: steps.map stepLine ++
    [("Applying twice is a declared no-op (idempotent, SPEC §24)." : Str)]) ++ ['\n']

variable [Interpreter]

/-- `value[:12]`, as a format string shows it. -/
def shortId : Json → Py Str
  | .str text => .ok (text.take 12)
  | .list items => .ok (Json.list (items.take 12)).repr
  | .dict _ => .error (.keyError "slice(None, 12, None)")
  | .null => .error (.typeError "'NoneType' object is not subscriptable")
  | .bool _ => .error (.typeError "'bool' object is not subscriptable")
  | .int _ => .error (.typeError "'int' object is not subscriptable")
  | .float _ => .error (.typeError "'float' object is not subscriptable")

/-- The command, given what loading the configured journal gives. -/
def rollbackWith (loading : Py (List TransactionRecord)) (rest : List Str)
    (journalPath : Option Str) : Py (Nat × Str) :=
  match rest with
  | [] => .ok (exitNotFound, "rollback: pass a transaction-id\n")
  | wanted :: _ =>
      if !truthy journalPath then .ok (exitNotFound, "rollback: no journal configured\n")
      else do
        let records ← loading
        match ← matching wanted records with
        | [] => return (exitNotFound, "rollback: transaction " ++ wanted.take 12 ++ " not found\n")
        | rec :: _ => do
            let steps ← planRollback rec
            let short ← shortId rec.transactionId
            return (exitOk, rollbackText short steps)

def cmdRollback (loads : Loads) (content : Journal.Content) (rest : List Str)
    (journalPath : Option Str) : Py (Nat × Str) :=
  rollbackWith (Journal.load loads content) rest journalPath

section Choice

variable {loads : Loads} {content : Journal.Content} {wanted text : Str} {rest : List Str}
  {journalPath : Option Str} {records found : List TransactionRecord} {rec : TransactionRecord}
  {steps : List RollbackStep}

/-- The argument is a prefix of the id. -/
def named (wanted : Str) (rec : TransactionRecord) : Bool :=
  match rec.transactionId with
  | .str text => startsWith text wanted
  | _ => false

omit [Interpreter] in
theorem matching_ok_iff : matching wanted records = .ok found ↔
    (∀ rec ∈ records, ∃ text, rec.transactionId = .str text) ∧ found = records.filter (named wanted) := by
  induction records generalizing found with
  | nil =>
      rw [matching, Except.ok.injEq]
      simp [eq_comm]
  | cons rec records ih =>
      rw [matching, List.forall_mem_cons, List.filter_cons]
      cases id : rec.transactionId with
      | str text =>
          have here : named wanted rec = startsWith text wanted := by rw [named, id]
          rw [here]
          constructor
          · intro matched
            obtain ⟨later, matchedLater, same⟩ := bind_ok matched
            obtain ⟨texts, filtered⟩ := ih.mp matchedLater
            cases same
            rw [filtered]
            exact ⟨⟨⟨text, rfl⟩, texts⟩, rfl⟩
          · intro ⟨⟨_, texts⟩, filtered⟩
            simp only [ih.mpr ⟨texts, rfl⟩]
            rw [filtered]
            rfl
      | _ => simp

/-- The first record the argument names, in a journal whose ids are texts. -/
structure Selects (loads : Loads) (content : Journal.Content) (wanted : Str)
    (records : List TransactionRecord) (rec : TransactionRecord) : Prop where
  loaded : Journal.load loads content = .ok records
  texts : ∀ rec ∈ records, ∃ text, rec.transactionId = .str text
  first : records.find? (named wanted) = some rec

omit [Interpreter] in
theorem Selects.member (selects : Selects loads content wanted records rec) : rec ∈ records :=
  List.mem_of_find?_eq_some selects.first

omit [Interpreter] in
theorem Selects.named (selects : Selects loads content wanted records rec) : named wanted rec = true :=
  List.find?_some selects.first

omit [Interpreter] in
theorem selects_iff : Selects loads content wanted records rec ↔
    Journal.load loads content = .ok records ∧ ∃ others, matching wanted records = .ok (rec :: others) := by
  constructor
  · intro selects
    refine ⟨selects.loaded, (records.filter (Cli.named wanted)).tail, ?_⟩
    rw [matching_ok_iff]
    have head := selects.first
    rw [← List.head?_filter] at head
    exact ⟨selects.texts, (List.cons_head?_tail head)⟩
  · intro ⟨loaded, others, matched⟩
    obtain ⟨texts, filtered⟩ := matching_ok_iff.mp matched
    refine ⟨loaded, texts, ?_⟩
    rw [← List.head?_filter, ← filtered]
    rfl

/-- A plan is printed for the selected record, when it has one. -/
theorem cmdRollback_ok_iff :
    cmdRollback loads content (wanted :: rest) journalPath = .ok (exitOk, text) ↔
      truthy journalPath = true ∧ ∃ records rec steps short, Selects loads content wanted records rec ∧
        planRollback rec = .ok steps ∧ shortId rec.transactionId = .ok short ∧
        rollbackText short steps = text := by
  rw [cmdRollback, rollbackWith]
  cases configured : truthy journalPath with
  | false => simp [exitNotFound, exitOk]
  | true =>
      simp only [Bool.not_true, Bool.false_eq_true, if_false, true_and]
      constructor
      · intro result
        obtain ⟨records, loaded, result⟩ := bind_ok result
        obtain ⟨found, matched, result⟩ := bind_ok result
        match found with
        | [] => cases result
        | rec :: others =>
            obtain ⟨steps, planned, result⟩ := bind_ok result
            obtain ⟨short, shown, result⟩ := bind_ok result
            cases result
            exact ⟨records, rec, steps, short, selects_iff.mpr ⟨loaded, others, matched⟩, planned, shown, rfl⟩
      · intro ⟨records, rec, steps, short, selects, planned, shown, same⟩
        obtain ⟨loaded, others, matched⟩ := selects_iff.mp selects
        simp only [loaded, bind, Except.bind, matched, planned, shown, same]
        rfl

end Choice

section Repairs

variable {loads : Loads} {device : UsbDevice} {kb : Kb} {boundDriver loadedModule : Option Str}
  {plan : Plan} {vid pid module wanted journalPath : Str} {rest : List Str}
  {records : List TransactionRecord} {transaction rec : TransactionRecord}

omit [Interpreter] in
theorem pyGet_of_same {items : List (Str × Json)} {value other : Json}
    (same : Json.Same (.dict items) other) (distinct : (items.map Prod.fst).Nodup) (key : Str)
    (found : Json.lookup key items = some value) :
    ∃ again, pyGet key other = .ok again ∧ Json.Same value again := by
  cases other with
  | dict others =>
      obtain ⟨again, foundAgain, sameValue⟩ := Json.SameItems.lookup same distinct found
      refine ⟨again, ?_, sameValue⟩
      rw [pyGet, foundAgain, Option.getD_some]
  | _ => exact same.elim

omit [Interpreter] in
theorem absolute_confPath (vid pid : Str) : startsWith (confPath vid pid) "/" = true := by
  unfold confPath
  rfl

theorem planRollback_of_same (vidHex : IsHex4 vid) (pidHex : IsHex4 pid)
    (same : Json.Same (removeConf vid pid) rec.rollbackAction) :
    planRollback rec = .ok [removeConfStep vid pid] := by
  have keys : (["op", "path", "restore_if_existed"] : List Str).Nodup := by decide
  obtain ⟨op, getOp, sameOp⟩ := pyGet_of_same same keys "op" rfl
  obtain ⟨path, getPath, samePath⟩ := pyGet_of_same same keys "path" rfl
  obtain ⟨restore, getRestore, sameRestore⟩ := pyGet_of_same same keys "restore_if_existed" rfl
  obtain ⟨digest, getDigest, sameDigest⟩ :=
    pyGet_of_same sameRestore (List.nodup_singleton ("sha256" : Str)) "sha256" rfl
  have none : digest = .null := by
    cases digest with
    | null => rfl
    | _ => exact sameDigest.elim
  have read : pyGet "sha256" (if restore.truthy then restore else .dict []) = .ok .null := by
    split
    · rw [getDigest, none]
    · rfl
  rw [Json.same_str sameOp] at getOp
  rw [Json.same_str samePath] at getPath
  rw [planRollback_removeFile getOp, planRemoveFile]
  simp only [getPath, getRestore, read, bind, Except.bind, absolute_confPath, normpath_confPath vidHex pidHex,
    and_self, if_true]
  rfl

/-- A digest has one length, so a prefix is the whole id. -/
theorem eq_of_named (digests : ∀ text, (Interpreter.sha256 text).length = 64) {text other : Str}
    (id : rec.transactionId = .str (Interpreter.sha256 text))
    (isNamed : named (Interpreter.sha256 other) rec = true) :
    Interpreter.sha256 text = Interpreter.sha256 other := by
  rw [named, id] at isNamed
  obtain ⟨more, split⟩ := startsWith_iff.mp isNamed
  have length := congrArg List.length split
  rw [List.length_append, digests, digests] at length
  have none : more = [] := List.length_eq_zero_iff.mp (by omega)
  rw [split, none, List.append_nil]

/-- By its whole id a recorded transaction selects a record that undoes the same. -/
theorem exists_selected (inverts : Inverts loads)
    (digests : ∀ text, (Interpreter.sha256 text).length = 64)
    (created : ∀ rec ∈ records, Created rec) (member : transaction ∈ records)
    (collisionFree : ∀ rec ∈ records,
      Interpreter.sha256 (hashed rec) = Interpreter.sha256 (hashed transaction) →
        hashed rec = hashed transaction)
    (wantedId : transaction.transactionId = .str wanted) :
    ∃ loaded rec, Selects loads (records.foldl Journal.append none) wanted loaded rec ∧
      rec.transactionId = .str wanted ∧ Json.Same transaction.rollbackAction rec.rollbackAction := by
  obtain ⟨loaded, read, sameRecords⟩ :=
    Journal.load_run inverts fun rec inRecords => (created rec inRecords).distinct
  have digest : Interpreter.sha256 (hashed transaction) = wanted :=
    Json.str.inj (((created _ member).transactionId_eq).symm.trans wantedId)
  have texts : ∀ other ∈ loaded, ∃ text, other.transactionId = .str text := by
    intro other inLoaded
    obtain ⟨rec, inRecords, same⟩ := exists_of_mem_right sameRecords inLoaded
    exact ⟨_, (created rec inRecords).readId same⟩
  have backward : List.Forall₂ (fun other rec => RecordSame rec other) loaded records := sameRecords.flip
  obtain ⟨again, inLoaded, sameAgain⟩ := exists_of_mem_right backward member
  have found : (loaded.find? (named wanted)).isSome := by
    rw [List.find?_isSome]
    refine ⟨again, inLoaded, ?_⟩
    rw [named, (created _ member).readId sameAgain, digest]
    exact startsWith_iff.mpr ⟨[], by simp⟩
  obtain ⟨other, first⟩ := Option.isSome_iff_exists.mp found
  have selects : Selects loads (records.foldl Journal.append none) wanted loaded other := ⟨read, texts, first⟩
  obtain ⟨rec, inRecords, same⟩ := exists_of_mem_right sameRecords selects.member
  have id := (created rec inRecords).readId same
  have isNamed := selects.named
  rw [← digest] at isNamed
  have sameDigest := eq_of_named digests id isNamed
  refine ⟨loaded, other, selects, ?_, ?_⟩
  · rw [id, sameDigest, digest]
  · exact (created _ member).rollback_same (created rec inRecords) (collisionFree rec inRecords sameDigest).symm same

/-- In any journal of the program, a planned repair is undone by its id. -/
theorem cmdRollback_planned (inverts : Inverts loads)
    (digests : ∀ text, (Interpreter.sha256 text).length = 64)
    (planned : planStateB device kb boundDriver loadedModule = .ok plan) (feasible : plan.feasible = true)
    (recorded : plan.transaction = some transaction)
    (created : ∀ rec ∈ records, Created rec) (member : transaction ∈ records)
    (collisionFree : ∀ rec ∈ records,
      Interpreter.sha256 (hashed rec) = Interpreter.sha256 (hashed transaction) →
        hashed rec = hashed transaction)
    (wantedId : transaction.transactionId = .str wanted) (configured : journalPath ≠ []) :
    ∃ path step loaded rec, plan.filesAffected = [path] ∧
      step = ⟨1, .removeFile path "restore only if before-state says it existed" .null, true⟩ ∧
      Selects loads (records.foldl Journal.append none) wanted loaded rec ∧
      planRollback rec = .ok [step] ∧
      cmdRollback loads (records.foldl Journal.append none) (wanted :: rest) (some journalPath) =
        .ok (exitOk, rollbackText (wanted.take 12) [step]) := by
  obtain ⟨entry, module, chipset, confidence, _, _, _, valid, same⟩ := planStateB_feasible planned feasible
  subst plan
  have sameTransaction : bindTransaction device.vid device.pid module = transaction :=
    Option.some.inj recorded
  obtain ⟨loaded, rec, selects, id, undo⟩ :=
    exists_selected inverts digests created member collisionFree wantedId
  rw [← sameTransaction] at undo
  have steps : planRollback rec = .ok [removeConfStep device.vid device.pid] :=
    planRollback_of_same device.vidHex.1 device.pidHex.1 undo
  have shown : shortId rec.transactionId = .ok (wanted.take 12) := by rw [id, shortId]
  refine ⟨confPath device.vid device.pid, removeConfStep device.vid device.pid, loaded, rec, rfl, rfl,
    selects, steps, cmdRollback_ok_iff.mpr ?_⟩
  exact ⟨truthy_iff.mpr ⟨_, rfl, configured⟩, loaded, rec, _, _, selects, steps, shown, rfl⟩

end Repairs

def goldenTransaction : TransactionRecord :=
  @bindTransaction asciiInterpreter "0bda" "8811" "rtw_8821cu"

def goldenId : Str := @Interpreter.sha256 asciiInterpreter (hashed goldenTransaction)

omit [Interpreter] in
theorem created_goldenTransaction : @Created asciiInterpreter goldenTransaction := by
  let _ : Interpreter := asciiInterpreter
  have before : (beforeState "0bda" "8811").DistinctKeys :=
    ⟨by decide, trivial, trivial, trivial, trivial, trivial⟩
  have change : (aliasChange "0bda" "8811" "rtw_8821cu").DistinctKeys :=
    ⟨by decide, trivial, trivial, trivial⟩
  have after : (afterState "0bda" "8811" "rtw_8821cu").DistinctKeys :=
    ⟨by decide, trivial, trivial, trivial, trivial, trivial⟩
  have rollback : (removeConf "0bda" "8811").DistinctKeys :=
    ⟨by decide, trivial, trivial, ⟨by decide, trivial, trivial⟩, trivial⟩
  exact ⟨⟨_, before⟩, ⟨_, change⟩, ⟨_, after⟩, ⟨_, rollback⟩, rfl⟩

omit [Interpreter] in
theorem created_separatorsRecord : @Created asciiInterpreter separatorsRecord :=
  ⟨separators, separators, separators, separators, rfl⟩

omit [Interpreter] in
theorem separatorsRecord_ne_golden :
    @Interpreter.sha256 asciiInterpreter (hashed separatorsRecord) ≠ goldenId := by
  decide +kernel

omit [Interpreter] in
theorem cmdRollback_planned_golden :
    ∃ path step loaded rec, (@goldenPlan asciiInterpreter "rtw_8821cu").filesAffected = [path] ∧
      step = ⟨1, .removeFile path "restore only if before-state says it existed" .null, true⟩ ∧
      Selects readLoads ([separatorsRecord, goldenTransaction, goldenTransaction].foldl Journal.append none)
        goldenId loaded rec ∧
      @planRollback asciiInterpreter rec = .ok [step] ∧
      @cmdRollback asciiInterpreter readLoads
          ([separatorsRecord, goldenTransaction, goldenTransaction].foldl Journal.append none) [goldenId]
          (some "journal.jsonl") =
        .ok (exitOk, rollbackText (goldenId.take 12) [step]) := by
  let _ : Interpreter := asciiInterpreter
  have planned : planStateB goldenDevice goldenKb none none = .ok (goldenPlan "rtw_8821cu") :=
    planStateB_golden rfl (by decide)
  have created : ∀ rec ∈ [separatorsRecord, goldenTransaction, goldenTransaction], Created rec := by
    simp only [List.forall_mem_cons]
    exact ⟨created_separatorsRecord, created_goldenTransaction, created_goldenTransaction,
      List.forall_mem_nil _⟩
  refine cmdRollback_planned readLoads_laws.inverts Sha256.length_hexdigest planned rfl rfl created
    (List.mem_cons_of_mem _ List.mem_cons_self) ?_ rfl (by decide)
  simp only [List.forall_mem_cons]
  exact ⟨fun same => absurd same separatorsRecord_ne_golden, fun _ => rfl, fun _ => rfl,
    List.forall_mem_nil _⟩

section Ambiguous

variable {loads : Loads} {content : Journal.Content} {wanted : Str} {rest : List Str}
  {journalPath : Option Str}

/-- A plan would be printed although the argument names another transaction too. -/
def Guesses (loads : Loads) (content : Journal.Content) (wanted : Str) (journalPath : Option Str) : Prop :=
  truthy journalPath = true ∧ ∃ records rec steps, Selects loads content wanted records rec ∧
    planRollback rec = .ok steps ∧
    ∃ other ∈ records, named wanted other = true ∧ other.transactionId ≠ rec.transactionId

/-- A printed plan belongs to the one transaction the argument names, unless the first of
several was taken. -/
theorem cmdRollback_one_transaction_iff :
    (∀ text, cmdRollback loads content (wanted :: rest) journalPath = .ok (exitOk, text) →
      ∀ records, Journal.load loads content = .ok records →
        ∀ rec ∈ records, ∀ other ∈ records, named wanted rec = true → named wanted other = true →
          rec.transactionId = other.transactionId) ↔
      ¬ Guesses loads content wanted journalPath := by
  constructor
  · intro one ⟨configured, records, rec, steps, selects, planned, other, inRecords, named, different⟩
    obtain ⟨id, text⟩ := selects.texts rec selects.member
    have shown : shortId rec.transactionId = .ok (id.take 12) := by rw [text, shortId]
    have printed : cmdRollback loads content (wanted :: rest) journalPath = .ok (exitOk, _) :=
      cmdRollback_ok_iff.mpr ⟨configured, records, rec, steps, _, selects, planned, shown, rfl⟩
    exact different (one _ printed records selects.loaded other inRecords rec selects.member named selects.named)
  · intro sure text printed records loaded
    obtain ⟨configured, records', first, steps, short, selects, planned, _, _⟩ := cmdRollback_ok_iff.mp printed
    have same : records' = records := Except.ok.inj (selects.loaded.symm.trans loaded)
    subst same
    have only : ∀ rec ∈ records', named wanted rec = true → rec.transactionId = first.transactionId := by
      intro rec member isNamed
      by_contra different
      exact sure ⟨configured, records', first, steps, selects, planned, rec, member, isNamed, different⟩
    intro rec member other member' isNamed isNamed'
    rw [only rec member isNamed, only other member' isNamed']

omit [Interpreter] in
/-- No argument at all tells two transactions apart. -/
theorem cmdRollback_empty_guesses :
    ∃ text first second,
      @cmdRollback asciiInterpreter readLoads
          ([goldenTransaction, separatorsRecord].foldl Journal.append none) [[]] (some "journal.jsonl") =
        .ok (exitOk, text) ∧
      Journal.load readLoads ([goldenTransaction, separatorsRecord].foldl Journal.append none) =
        .ok [first, second] ∧
      named [] first = true ∧ named [] second = true ∧ first.transactionId ≠ second.transactionId := by
  let _ : Interpreter := asciiInterpreter
  have created : ∀ rec ∈ [goldenTransaction, separatorsRecord], Created rec := by
    simp only [List.forall_mem_cons]
    exact ⟨created_goldenTransaction, created_separatorsRecord, List.forall_mem_nil _⟩
  obtain ⟨loaded, read, same⟩ :=
    Journal.load_run readLoads_laws.inverts fun rec inRecords => (created rec inRecords).distinct
  obtain ⟨first, later, sameFirst, sameLater, split⟩ := List.forall₂_cons_left_iff.mp same
  obtain ⟨second, last, sameSecond, sameLast, split'⟩ := List.forall₂_cons_left_iff.mp sameLater
  have shape : loaded = [first, second] := by rw [split, split', List.forall₂_nil_left_iff.mp sameLast]
  rw [shape] at read
  have firstId : first.transactionId = .str goldenId := Json.same_str sameFirst.transactionId
  have secondId : second.transactionId = .str (Interpreter.sha256 (hashed separatorsRecord)) :=
    Json.same_str sameSecond.transactionId
  have firstNamed : named [] first = true := by
    rw [named, firstId]
    rfl
  have secondNamed : named [] second = true := by
    rw [named, secondId]
    rfl
  have steps : planRollback first = .ok [removeConfStep "0bda" "8811"] :=
    planRollback_of_same (by decide) (by decide) sameFirst.rollbackAction
  have shown : shortId first.transactionId = .ok (goldenId.take 12) := by rw [firstId, shortId]
  have texts : ∀ rec ∈ [first, second], ∃ text, rec.transactionId = .str text := by
    simp only [List.forall_mem_cons]
    exact ⟨⟨_, firstId⟩, ⟨_, secondId⟩, List.forall_mem_nil _⟩
  have selected : [first, second].find? (named []) = some first := List.find?_cons_of_pos firstNamed
  refine ⟨_, first, second, cmdRollback_ok_iff.mpr ⟨rfl, _, first, _, _, ⟨read, texts, selected⟩, steps,
    shown, rfl⟩, read, firstNamed, secondNamed, ?_⟩
  rw [firstId, secondId]
  exact fun same => separatorsRecord_ne_golden (Json.str.inj same).symm

end Ambiguous

end DongleRescue.Cli
