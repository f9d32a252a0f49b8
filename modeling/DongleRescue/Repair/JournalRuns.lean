import DongleRescue.Repair.Journal

namespace DongleRescue.Repair

open DongleRescue.Data

/-! What a journal gives back of the records appended to it. -/

/-- Equal as dicts. -/
structure RecordSame (rec other : TransactionRecord) : Prop where
  transactionId : Json.Same rec.transactionId other.transactionId
  beforeState : Json.Same rec.beforeState other.beforeState
  change : Json.Same rec.change other.change
  afterState : Json.Same rec.afterState other.afterState
  rollbackAction : Json.Same rec.rollbackAction other.rollbackAction

/-- `json.loads` reads back what `json.dumps` wrote. -/
def Inverts (loads : Loads) : Prop :=
  ∀ value : Json, value.DistinctKeys → ∃ again, loads value.dumps = .ok again ∧ Json.Same value again

/-- Where a document may start and end. -/
structure DocumentLaws (loads : Loads) : Prop where
  inverts : Inverts loads
  blanks : ∀ {text blanks value}, loads text = .ok value → (∀ c ∈ blanks, Json.isBlank c = true) →
    loads (blanks ++ text) = .ok value
  extra : ∀ {text value} rest, loads text = .ok value →
    ∃ failure, loads (text ++ '\x7b' :: rest) = .error failure
  foreign : ∀ {blanks c} rest, (∀ d ∈ blanks, Json.isBlank d = true) → isSpace c = true →
    Json.isBlank c = false → ∃ failure, loads (blanks ++ c :: rest) = .error failure

/-- `json.loads` on the documents that the reader is meant for. -/
def readLoads : Loads := fun text =>
  match Json.readDocument text with
  | some value => .ok value
  | none => .error (.decodeError "Expecting value: line 1 column 1 (char 0)")

private theorem readLoads_of_none {text : Str} (refused : Json.readDocument text = none) :
    ∃ failure, readLoads text = .error failure :=
  ⟨_, by rw [readLoads, refused]⟩

theorem readDocument_of_ok {text : Str} {value : Json} (read : readLoads text = .ok value) :
    Json.readDocument text = some value := by
  rw [readLoads] at read
  split at read
  · rename_i found
    cases read
    exact found
  · cases read

theorem readLoads_laws : DocumentLaws readLoads where
  inverts value distinct := by
    refine ⟨value.sortKeys, ?_, (Json.same_iff distinct).mpr (Json.sortKeys_sortKeys value).symm⟩
    rw [readLoads, Json.dumps, Json.readDocument_encode distinct]
  blanks read blank := by
    rw [readLoads, Json.readDocument_blanks blank, readDocument_of_ok read]
  extra _ read :=
    readLoads_of_none (Json.readDocument_extra (readDocument_of_ok read) (by decide) (by decide))
  foreign _ blank space notBlank :=
    readLoads_of_none (Json.readDocument_foreign blank space notBlank)

namespace Journal

/-- What the next record will be appended to: the text after the last line break. -/
def unfinished (content : Content) : Str := lastLine (universalNewlines (content.getD []))

section Records

variable {rec : TransactionRecord} {raw : Json}

def recordItems (rec : TransactionRecord) : List (Str × Json) :=
  [("transaction_id", rec.transactionId), ("before_state", rec.beforeState), ("change", rec.change),
    ("after_state", rec.afterState), ("rollback_action", rec.rollbackAction)]

def recordKeys : List Str :=
  ["transaction_id", "before_state", "change", "after_state", "rollback_action"]

theorem nodup_recordItems (rec : TransactionRecord) : ((recordItems rec).map Prod.fst).Nodup := by
  have keys : (recordItems rec).map Prod.fst = recordKeys := rfl
  rw [keys]
  decide

theorem recordOf_same (same : Json.Same rec.toDict raw) :
    ∃ again, recordOf raw = .ok again ∧ RecordSame rec again := by
  cases raw with
  | dict others =>
      have items : Json.SameItems (recordItems rec) others := same
      have read : ∀ key value, Json.lookup key (recordItems rec) = some value →
          ∃ other, subscript key (.dict others) = .ok other ∧ Json.Same value other := by
        intro key value found
        obtain ⟨other, foundOther, sameValue⟩ := items.lookup (nodup_recordItems rec) found
        refine ⟨other, ?_, sameValue⟩
        simp only [subscript, foundOther]
      obtain ⟨transactionId, readId, sameId⟩ := read "transaction_id" _ rfl
      obtain ⟨beforeState, readBefore, sameBefore⟩ := read "before_state" _ rfl
      obtain ⟨change, readChange, sameChange⟩ := read "change" _ rfl
      obtain ⟨afterState, readAfter, sameAfter⟩ := read "after_state" _ rfl
      obtain ⟨rollbackAction, readRollback, sameRollback⟩ := read "rollback_action" _ rfl
      refine ⟨⟨transactionId, beforeState, change, afterState, rollbackAction⟩, ?_,
        sameId, sameBefore, sameChange, sameAfter, sameRollback⟩
      rw [recordOf, readId, readBefore, readChange, readAfter, readRollback]
      rfl
  | _ => exact same.elim

end Records

section Lines

variable {loads : Loads} {number : Nat} {content : Content} {rec : TransactionRecord}

theorem loadLines_append (first second : List Str) :
    loadLines loads number (first ++ second) = do
      let records ← loadLines loads number first
      let more ← loadLines loads (number + first.length) second
      return records ++ more := by
  induction first generalizing number with
  | nil =>
      have none : loadLines loads number [] = .ok [] := rfl
      rw [List.nil_append, List.length_nil, Nat.add_zero, none]
      cases loadLines loads number second with
      | error failure => rfl
      | ok more => rfl
  | cons line first ih =>
      have later : number + (line :: first).length = number + 1 + first.length := by
        rw [List.length_cons]
        omega
      rw [List.cons_append, loadLines, loadLines, ih, later]
      split
      · rfl
      · simp only [bind_assoc, pure_bind]
        rfl

theorem dumps_eq_cons (rec : TransactionRecord) : ∃ rest, rec.toDict.dumps = '\x7b' :: rest :=
  ⟨_, rfl⟩

theorem not_lineBreak_of_printable {c : Char} (printable : Json.IsPrintable c) :
    isLineBreak c = false := by
  obtain ⟨above, below⟩ := printable
  simp only [isLineBreak, Bool.or_eq_false_iff, Bool.and_eq_false_iff, decide_eq_false_iff_not,
    beq_eq_false_iff_ne]
  omega

theorem dumps_kept (rec : TransactionRecord) : ∀ c ∈ rec.toDict.dumps, isLineBreak c = false :=
  fun c member => not_lineBreak_of_printable (Json.printable_dumps _ c member)

theorem lines_eq (content : Content) : splitlines (universalNewlines (content.getD [])) =
    splitlines (closedLines (universalNewlines (content.getD []))) ++ splitlines (unfinished content) := by
  have split := splitlines_closedLines_append (carriage_notMem (content.getD [])) (unfinished content)
  rwa [unfinished, closedLines_append_lastLine] at split

theorem universalNewlines_append_record (content : Content) (rec : TransactionRecord) :
    universalNewlines ((append content rec).getD []) =
      universalNewlines (content.getD []) ++ (rec.toDict.dumps ++ ['\n']) := by
  obtain ⟨rest, first⟩ := dumps_eq_cons rec
  have boundary : (rec.toDict.dumps ++ ['\n']).head? ≠ some '\n' := by simp [first]
  have plain : '\r' ∉ rec.toDict.dumps ++ ['\n'] := by
    rw [List.mem_append, not_or]
    exact ⟨fun member => ne_carriage (dumps_kept rec _ member) rfl, by decide⟩
  rw [append, Option.getD_some, universalNewlines_append boundary, universalNewlines_eq_self plain]

/-- The next record is written behind what no line break has ended. -/
theorem lines_append (content : Content) (rec : TransactionRecord) :
    splitlines (universalNewlines ((append content rec).getD [])) =
      splitlines (closedLines (universalNewlines (content.getD []))) ++
        [unfinished content ++ rec.toDict.dumps] := by
  have kept : ∀ c ∈ unfinished content ++ rec.toDict.dumps, isLineBreak c = false :=
    List.forall_mem_append.mpr ⟨lastLine_kept _, dumps_kept rec⟩
  have split := splitlines_closedLines_append (carriage_notMem (content.getD []))
    (unfinished content ++ rec.toDict.dumps ++ ['\n'])
  rw [splitlines_line kept, List.append_assoc, ← List.append_assoc (closedLines _), unfinished,
    closedLines_append_lastLine] at split
  rw [universalNewlines_append_record]
  exact split

theorem unfinished_append (content : Content) (rec : TransactionRecord) :
    unfinished (append content rec) = [] := by
  rw [unfinished, universalNewlines_append_record, ← List.append_assoc]
  exact List.rtakeWhile_concat_neg _ _ _ (by decide)

theorem load_eq (content : Content) :
    load loads content = loadLines loads 1 (splitlines (universalNewlines (content.getD []))) := by
  cases content with
  | none => rfl
  | some text => rfl

end Lines

section Step

variable {loads : Loads} {content : Content} {records : List TransactionRecord}
  {rec : TransactionRecord}

theorem strip_append_dumps (before : Str) : strip (before ++ rec.toDict.dumps) ≠ [] := by
  obtain ⟨rest, first⟩ := dumps_eq_cons rec
  intro blank
  have space := stripWhile_eq_nil_iff.mp blank '\x7b' (by simp [first])
  exact absurd space (by decide)

def closed (content : Content) : List Str :=
  splitlines (closedLines (universalNewlines (content.getD [])))

/-- After appending, the records of the closed lines are followed by what the line of the
record gives. -/
theorem load_append_eq (content : Content) (rec : TransactionRecord) :
    load loads (append content rec) = do
      let records ← loadLines loads 1 (closed content)
      let again ← loadLine loads (1 + (closed content).length) (unfinished content ++ rec.toDict.dumps)
      return records ++ [again] := by
  rw [load_eq, lines_append, loadLines_append, loadLines, if_neg (strip_append_dumps _)]
  simp only [loadLines, bind_assoc, pure_bind]
  rfl

theorem load_parts (loaded : load loads content = .ok records) :
    ∃ before last, loadLines loads 1 (closed content) = .ok before ∧
      loadLines loads (1 + (closed content).length) (splitlines (unfinished content)) = .ok last ∧
      records = before ++ last := by
  rw [load_eq, lines_eq, loadLines_append] at loaded
  obtain ⟨before, readBefore, loaded⟩ := bind_ok loaded
  obtain ⟨last, readLast, loaded⟩ := bind_ok loaded
  cases loaded
  exact ⟨before, last, readBefore, readLast, rfl⟩

theorem loadLine_of_read {line : Str} {raw : Json} (read : loads line = .ok raw)
    (same : Json.Same rec.toDict raw) (number : Nat) :
    ∃ again, loadLine loads number line = .ok again ∧ RecordSame rec again := by
  obtain ⟨again, readRecord, sameRecord⟩ := recordOf_same same
  refine ⟨again, ?_, sameRecord⟩
  rw [loadLine, read]
  exact readRecord

/-- Where the file ends with a line break, the record is read back after those before it. -/
theorem load_append_finished (inverts : Inverts loads) (distinct : rec.toDict.DistinctKeys)
    (finished : unfinished content = []) (loaded : load loads content = .ok records) :
    ∃ again, load loads (append content rec) = .ok (records ++ [again]) ∧ RecordSame rec again := by
  obtain ⟨before, last, readBefore, readLast, split⟩ := load_parts loaded
  obtain ⟨raw, read, same⟩ := inverts _ distinct
  obtain ⟨again, readAgain, sameRecord⟩ := loadLine_of_read read same (1 + (closed content).length)
  rw [finished] at readLast
  cases readLast
  refine ⟨again, ?_, sameRecord⟩
  rw [load_append_eq, readBefore, finished, List.nil_append, readAgain, split, List.append_nil]
  rfl

theorem exists_foreign {line : Str} (space : ∀ c ∈ line, isSpace c = true)
    (dirty : ¬ ∀ c ∈ line, Json.isBlank c = true) :
    ∃ blanks c rest, line = blanks ++ c :: rest ∧ (∀ d ∈ blanks, Json.isBlank d = true) ∧
      isSpace c = true ∧ Json.isBlank c = false := by
  have split := List.takeWhile_append_dropWhile (p := Json.isBlank) (l := line)
  have nonempty : line.dropWhile Json.isBlank ≠ [] := fun empty =>
    dirty (List.dropWhile_eq_nil_iff.mp empty)
  obtain ⟨c, rest, tail⟩ := List.exists_cons_of_ne_nil nonempty
  have notBlank := List.head?_dropWhile_not Json.isBlank line
  rw [tail] at split notBlank
  refine ⟨_, c, rest, split.symm, fun d member => List.mem_takeWhile_imp member, ?_, by simpa using notBlank⟩
  have inLine : c ∈ line.dropWhile Json.isBlank := by simp [tail]
  exact space c ((List.dropWhile_suffix _).subset inLine)

theorem unfinished_kept (content : Content) : ∀ c ∈ unfinished content, isLineBreak c = false :=
  lastLine_kept _

/-- Behind anything but blanks a record makes its line unreadable. -/
theorem loadLine_dirty (laws : DocumentLaws loads) (rec : TransactionRecord)
    (loaded : loadLines loads (1 + (closed content).length) (splitlines (unfinished content)) = .ok records)
    (dirty : ¬ ∀ c ∈ unfinished content, Json.isBlank c = true) (number : Nat) :
    ∃ failure, loadLine loads number (unfinished content ++ rec.toDict.dumps) = .error failure := by
  obtain ⟨document, first⟩ := dumps_eq_cons rec
  have refused : ∀ line, (∃ failure, loads line = .error failure) →
      ∃ failure, loadLine loads number line = .error failure := by
    intro line ⟨failure, error⟩
    cases failure with
    | decodeError message => exact ⟨_, by rw [loadLine, error]⟩
    | other failure => exact ⟨failure, by rw [loadLine, error]⟩
  apply refused
  by_cases blank : strip (unfinished content) = []
  · obtain ⟨blanks, c, rest, split, blanksBlank, space, notBlank⟩ :=
      exists_foreign (stripWhile_eq_nil_iff.mp blank) dirty
    rw [split, List.append_assoc, List.cons_append]
    exact laws.foreign _ blanksBlank space notBlank
  · have nonempty : unfinished content ≠ [] := by
      intro empty
      rw [empty] at blank
      exact blank rfl
    rw [splitlines_open (unfinished_kept content), if_neg nonempty, loadLines, if_neg blank] at loaded
    obtain ⟨last, readLast, _⟩ := bind_ok loaded
    rw [first]
    cases read : loads (unfinished content) with
    | ok raw => exact laws.extra _ read
    | error failure =>
        rw [loadLine, read] at readLast
        cases failure with
        | decodeError message => cases readLast
        | other failure => cases readLast

theorem isBlank_iff_of_kept {c : Char} (kept : isLineBreak c = false) :
    c = ' ' ∨ c = '\t' ↔ Json.isBlank c = true := by
  simp only [Json.isBlank, Bool.or_eq_true, decide_eq_true_eq]
  constructor
  · exact fun blank => .inl (.inl blank)
  · rintro ((blank | same) | same)
    · exact blank
    · rw [same] at kept
      cases kept
    · rw [same] at kept
      cases kept

theorem isSpace_of_isBlank {c : Char} (blank : Json.isBlank c = true) : isSpace c = true := by
  simp only [Json.isBlank, Bool.or_eq_true, decide_eq_true_eq] at blank
  rcases blank with ((same | same) | same) | same
  all_goals
    rw [same]
    decide

theorem loadLines_blank {number : Nat} (blank : ∀ c ∈ unfinished content, Json.isBlank c = true)
    (loaded : loadLines loads number (splitlines (unfinished content)) = .ok records) : records = [] := by
  have stripped : strip (unfinished content) = [] :=
    stripWhile_eq_nil_iff.mpr fun c member => isSpace_of_isBlank (blank c member)
  rw [splitlines_open (unfinished_kept content)] at loaded
  split at loaded
  · cases loaded
    rfl
  · rw [loadLines, if_pos stripped] at loaded
    cases loaded
    rfl

/-- A record is added to a readable journal just when only spaces and tabs stand behind
the last line break of the file. -/
theorem load_append_iff (laws : DocumentLaws loads) (distinct : rec.toDict.DistinctKeys)
    (loaded : load loads content = .ok records) :
    (∃ again, load loads (append content rec) = .ok (records ++ [again]) ∧ RecordSame rec again) ↔
      ∀ c ∈ unfinished content, c = ' ' ∨ c = '\t' := by
  obtain ⟨before, last, readBefore, readLast, split⟩ := load_parts loaded
  have blank_iff : (∀ c ∈ unfinished content, c = ' ' ∨ c = '\t') ↔
      ∀ c ∈ unfinished content, Json.isBlank c = true :=
    forall₂_congr fun c member => isBlank_iff_of_kept (unfinished_kept content c member)
  rw [blank_iff, load_append_eq, readBefore]
  constructor
  · intro ⟨again, read, _⟩
    by_contra dirty
    obtain ⟨failure, error⟩ := loadLine_dirty laws rec readLast dirty (1 + (closed content).length)
    rw [error] at read
    cases read
  · intro blank
    obtain ⟨raw, readRaw, same⟩ := laws.inverts _ distinct
    obtain ⟨again, readAgain, sameRecord⟩ :=
      loadLine_of_read (laws.blanks readRaw blank) same (1 + (closed content).length)
    refine ⟨again, ?_, sameRecord⟩
    have none : last = [] := loadLines_blank blank readLast
    rw [readAgain, split, none, List.append_nil]
    rfl

end Step

section Runs

variable {loads : Loads} {records : List TransactionRecord}

theorem load_run (inverts : Inverts loads)
    (distinct : ∀ rec ∈ records, rec.toDict.DistinctKeys) :
    ∃ loaded, load loads (records.foldl append none) = .ok loaded ∧
      List.Forall₂ RecordSame records loaded := by
  suffices run : ∃ loaded, load loads (records.foldl append none) = .ok loaded ∧
      List.Forall₂ RecordSame records loaded ∧ unfinished (records.foldl append none) = [] by
    obtain ⟨loaded, read, same, _⟩ := run
    exact ⟨loaded, read, same⟩
  induction records using List.reverseRecOn with
  | nil => exact ⟨[], rfl, .nil, rfl⟩
  | append_singleton records rec ih =>
      rw [List.forall_mem_append] at distinct
      obtain ⟨loaded, read, same, finished⟩ := ih distinct.1
      obtain ⟨again, readAgain, sameRecord⟩ :=
        load_append_finished inverts (distinct.2 rec (by simp)) finished read
      rw [List.foldl_append]
      exact ⟨loaded ++ [again], readAgain, List.rel_append same (.cons sameRecord .nil),
        unfinished_append _ rec⟩

end Runs

def emptyRecord : TransactionRecord where
  transactionId := .str "c0ffee"
  beforeState := .dict []
  change := .dict []
  afterState := .dict []
  rollbackAction := .dict []

theorem distinct_emptyRecord : emptyRecord.toDict.DistinctKeys :=
  ⟨nodup_recordItems _, trivial, ⟨by decide, trivial⟩, ⟨by decide, trivial⟩, ⟨by decide, trivial⟩,
    ⟨by decide, trivial⟩, trivial⟩

theorem load_append_emptyRecord :
    ∃ other, load readLoads (append (some " \t") emptyRecord) = .ok [other] ∧ RecordSame emptyRecord other := by
  have loaded : load readLoads (some " \t") = .ok [] := rfl
  have blank : ∀ c ∈ unfinished (some " \t"), c = ' ' ∨ c = '\t' := by decide
  exact (load_append_iff readLoads_laws distinct_emptyRecord loaded).mpr blank

/-- A record whose line break was never written swallows the next one. -/
theorem load_append_torn :
    (∃ other, load readLoads (some emptyRecord.toDict.dumps) = .ok [other]) ∧
      load readLoads (append (some emptyRecord.toDict.dumps) emptyRecord) =
        .error (.valueError "journal corrupt at line 1: Expecting value: line 1 column 1 (char 0)") :=
  ⟨⟨_, rfl⟩, rfl⟩

end Journal

section Created

variable [Interpreter] {loads : Loads} {records : List TransactionRecord} {rec other : TransactionRecord}

def Created (rec : TransactionRecord) : Prop :=
  ∃ before change after rollbackAction : JsonObject,
    rec = createTransaction before.value change.value after.value rollbackAction.value

/-- The id is the one its own content has. -/
def SelfVerifying (rec : TransactionRecord) : Prop :=
  rec.transactionId =
    .str (transactionIdFrom rec.beforeState rec.change rec.afterState rec.rollbackAction)

/-- The text whose digest is the id. -/
def hashed (rec : TransactionRecord) : Str :=
  payload rec.beforeState rec.change rec.afterState rec.rollbackAction

theorem Created.parts (created : Created rec) :
    ∀ part ∈ [rec.beforeState, rec.change, rec.afterState, rec.rollbackAction], part.DistinctKeys := by
  obtain ⟨before, change, after, rollback, same⟩ := created
  rw [same]
  simp only [List.forall_mem_cons]
  exact ⟨before.distinct, change.distinct, after.distinct, rollback.distinct, List.forall_mem_nil _⟩

theorem Created.transactionId_eq (created : Created rec) :
    rec.transactionId = .str (Interpreter.sha256 (hashed rec)) := by
  obtain ⟨before, change, after, rollback, same⟩ := created
  rw [same]
  rfl

theorem Created.distinct (created : Created rec) : rec.toDict.DistinctKeys := by
  have id : rec.transactionId.DistinctKeys := by
    rw [created.transactionId_eq]
    trivial
  have parts := created.parts
  simp only [List.forall_mem_cons] at parts
  obtain ⟨before, change, after, rollback, _⟩ := parts
  exact ⟨Journal.nodup_recordItems _, id, before, change, after, rollback, trivial⟩

theorem Created.hashed_eq (created : Created rec) (same : RecordSame rec other) : hashed rec = hashed other := by
  have parts := created.parts
  simp only [List.forall_mem_cons] at parts
  obtain ⟨before, change, after, rollback, _⟩ := parts
  simp only [hashed, payload, List.map_cons, List.map_nil, canonical_eq_of_same before same.beforeState,
    canonical_eq_of_same change same.change, canonical_eq_of_same after same.afterState,
    canonical_eq_of_same rollback same.rollbackAction]

theorem Created.readId (created : Created rec) (same : RecordSame rec other) :
    other.transactionId = .str (Interpreter.sha256 (hashed rec)) := by
  have sameId := same.transactionId
  rw [created.transactionId_eq] at sameId
  exact Json.same_str sameId

theorem Created.selfVerifying (created : Created rec) (same : RecordSame rec other) :
    SelfVerifying other := by
  rw [SelfVerifying, created.readId same, created.hashed_eq same]
  rfl

/-- What is read back for a transaction undoes every transaction with the same hashed text. -/
theorem Created.rollback_same {first second : TransactionRecord} (created : Created first)
    (created' : Created second) (sameText : hashed first = hashed second) (same : RecordSame second other) :
    Json.Same first.rollbackAction other.rollbackAction := by
  obtain ⟨_, _, _, undo⟩ := (payload_eq_iff created.parts created'.parts).mp sameText
  exact undo.trans (created.parts _ (by simp)) (created'.parts _ (by simp)) same.rollbackAction

/-- The journal gives back the transactions in order, and each still has the id of its content. -/
theorem load_created (inverts : Inverts loads) (created : ∀ rec ∈ records, Created rec) :
    ∃ loaded, Journal.load loads (records.foldl Journal.append none) = .ok loaded ∧
      List.Forall₂ RecordSame records loaded ∧ ∀ rec ∈ loaded, SelfVerifying rec := by
  obtain ⟨loaded, read, same⟩ := Journal.load_run inverts fun rec member => (created rec member).distinct
  refine ⟨loaded, read, same, fun other member => ?_⟩
  obtain ⟨rec, inRecords, sameRecord⟩ := exists_of_mem_right same member
  exact (created rec inRecords).selfVerifying sameRecord

end Created

/-- Texts that `splitlines` would split. -/
def separators : JsonObject where
  items := [("note", .str "a\nb\u0085c\u2028d")]
  distinct := ⟨by decide, trivial, trivial⟩

def separatorsRecord : TransactionRecord :=
  @createTransaction asciiInterpreter separators.value separators.value separators.value separators.value

theorem load_created_separators :
    ∃ loaded, Journal.load readLoads ([separatorsRecord, separatorsRecord].foldl Journal.append none) =
        .ok loaded ∧ List.Forall₂ RecordSame [separatorsRecord, separatorsRecord] loaded ∧
      ∀ rec ∈ loaded, @SelfVerifying asciiInterpreter rec :=
  @load_created asciiInterpreter readLoads [separatorsRecord, separatorsRecord] readLoads_laws.inverts
    fun rec member =>
      have same : rec = separatorsRecord := by simpa using member
      ⟨separators, separators, separators, separators, same⟩

end DongleRescue.Repair
