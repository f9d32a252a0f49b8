import DongleRescue.Data.JsonCuts
import DongleRescue.Repair.JournalRuns

namespace DongleRescue.Repair

open DongleRescue.Data

/-! A journal whose last line was cut off while it was written. -/

/-- Where a document of one dict may be cut: a longer one adds white space, and what is
no document but starts one fails as such. -/
structure CutLaws (loads : Loads) : Prop where
  inverts : Inverts loads
  ends : ∀ {first second value other}, first.head? = some '\x7b' → loads first = .ok value →
    loads (first ++ second) = .ok other → ∀ c ∈ second, Json.isBlank c = true
  starts : ∀ {first second value failure}, loads (first ++ second) = .ok value →
    loads first = .error failure → ∃ message, failure = .decodeError message

theorem readLoads_cutLaws : CutLaws readLoads where
  inverts := readLoads_laws.inverts
  ends bracket read whole :=
    Json.blank_of_readDocument_append bracket (readDocument_of_ok read) (readDocument_of_ok whole)
  starts _ failed := by
    rw [readLoads] at failed
    split at failed
    · cases failed
    · cases failed
      exact ⟨_, rfl⟩

namespace Journal

/-- The file when the write of a record stopped after some of its characters. -/
def appendPart (content : Content) (rec : TransactionRecord) (count : Nat) : Content :=
  some (content.getD [] ++ (Json.dumps rec.toDict ++ ['\n']).take count)

section Parts

variable {loads : Loads} {content : Content} {rec : TransactionRecord} {records : List TransactionRecord}
  {count : Nat}

theorem getLast?_dumps (rec : TransactionRecord) : rec.toDict.dumps.getLast? = some '\x7d' := by
  have text : rec.toDict.dumps = Json.encode Json.spaced (.dict (recordItems rec)) := rfl
  rw [text, Json.encode_dict, List.getLast?_concat]

/-- No part of the line of a record is a document. -/
theorem loads_part (laws : CutLaws loads) (distinct : rec.toDict.DistinctKeys) {first second : Str}
    (split : rec.toDict.dumps = first ++ second) (started : first ≠ []) (cut : second ≠ []) :
    ∃ message, loads first = .error (.decodeError message) := by
  obtain ⟨raw, whole, _⟩ := laws.inverts _ distinct
  rw [split] at whole
  cases read : loads first with
  | error failure =>
      obtain ⟨message, same⟩ := laws.starts whole read
      exact ⟨message, by rw [same]⟩
  | ok value =>
      obtain ⟨rest, bracket⟩ := dumps_eq_cons rec
      have head : first.head? = some '\x7b' := by
        have same := congrArg List.head? (split.symm.trans bracket)
        rwa [List.head?_append_of_ne_nil _ started] at same
      have last : second.getLast? = some '\x7d' := by
        rw [← getLast?_dumps rec, split, List.getLast?_append_of_ne_nil _ cut]
      have blank := laws.ends head read whole '\x7d' (List.mem_of_getLast? last)
      cases blank

theorem strip_part {first : Str} (bracket : first.head? = some '\x7b') : strip first ≠ [] := by
  intro blank
  have space := stripWhile_eq_nil_iff.mp blank '\x7b' (List.mem_of_head? bracket)
  exact absurd space (by decide)

/-- In a file that ends with a line break the part of a record stands on a line of its own. -/
theorem load_part_eq (finished : unfinished content = []) {first : Str}
    (kept : ∀ c ∈ first, isLineBreak c = false) (bracket : first.head? = some '\x7b') :
    load loads (some (content.getD [] ++ first)) = do
      let records ← load loads content
      let again ← loadLine loads (1 + (splitlines (universalNewlines (content.getD []))).length) first
      return records ++ [again] := by
  have nonempty : first ≠ [] := by
    intro empty
    rw [empty] at bracket
    cases bracket
  have boundary : first.head? ≠ some '\n' := by
    rw [bracket]
    decide
  have plain : '\r' ∉ first := fun member => ne_carriage (kept _ member) rfl
  have closedText : closedLines (universalNewlines (content.getD [])) = universalNewlines (content.getD []) := by
    have split := closedLines_append_lastLine (universalNewlines (content.getD []))
    have empty : lastLine (universalNewlines (content.getD [])) = [] := finished
    rwa [empty, List.append_nil] at split
  have split := splitlines_closedLines_append (carriage_notMem (content.getD [])) first
  rw [closedText, splitlines_open kept, if_neg nonempty] at split
  rw [load, universalNewlines_append boundary, universalNewlines_eq_self plain, split, loadLines_append, load_eq,
    loadLines, if_neg (strip_part bracket)]
  simp only [loadLines, bind_assoc, pure_bind]
  rfl

/-- However much of a record was written to a journal that ends with a line break, the records
before it are not lost without notice: they are read back alone, or with the whole record, or the
line of the record is reported. -/
theorem load_appendPart (laws : CutLaws loads) (distinct : rec.toDict.DistinctKeys)
    (finished : unfinished content = []) (loaded : load loads content = .ok records) (count : Nat) :
    (count = 0 → load loads (appendPart content rec count) = .ok records) ∧
      (0 < count → count < rec.toDict.dumps.length → ∃ message, load loads (appendPart content rec count) =
        .error (.valueError ("journal corrupt at line " ++
          decimal (1 + (splitlines (universalNewlines (content.getD []))).length) ++ ": " ++ message))) ∧
      (rec.toDict.dumps.length ≤ count → ∃ again,
        load loads (appendPart content rec count) = .ok (records ++ [again]) ∧ RecordSame rec again) := by
  obtain ⟨rest, bracket⟩ := dumps_eq_cons rec
  refine ⟨fun none => ?_, fun some cut => ?_, fun all => ?_⟩
  · rw [none, appendPart, List.take_zero, List.append_nil, load_eq]
    rwa [load_eq] at loaded
  · have part : (rec.toDict.dumps ++ ['\n']).take count = rec.toDict.dumps.take count :=
      List.take_append_of_le_length (Nat.le_of_lt cut)
    have head : (rec.toDict.dumps.take count).head? = Option.some '\x7b' := by
      rw [List.head?_take, if_neg (Nat.ne_of_gt some), bracket]
      rfl
    have started : rec.toDict.dumps.take count ≠ [] := by
      intro empty
      rw [empty] at head
      cases head
    have left : rec.toDict.dumps.drop count ≠ [] := by
      rw [Ne, List.drop_eq_nil_iff]
      omega
    obtain ⟨message, failed⟩ := loads_part laws distinct
      (List.take_append_drop count rec.toDict.dumps).symm started left
    refine ⟨message, ?_⟩
    have kept : ∀ c ∈ rec.toDict.dumps.take count, isLineBreak c = false :=
      fun c member => dumps_kept rec c (List.mem_of_mem_take member)
    rw [appendPart, part, load_part_eq finished kept head, loaded, loadLine, failed]
    rfl
  · rcases Nat.eq_or_lt_of_le all with whole | beyond
    · have part : (rec.toDict.dumps ++ ['\n']).take count = rec.toDict.dumps := by
        rw [← whole, List.take_left]
      have head : rec.toDict.dumps.head? = Option.some '\x7b' := by
        rw [bracket]
        rfl
      obtain ⟨raw, read, same⟩ := laws.inverts _ distinct
      obtain ⟨again, readAgain, sameRecord⟩ :=
        loadLine_of_read read same (1 + (splitlines (universalNewlines (content.getD []))).length)
      refine ⟨again, ?_, sameRecord⟩
      rw [appendPart, part, load_part_eq finished (dumps_kept rec) head, loaded, readAgain]
      rfl
    · have part : (rec.toDict.dumps ++ ['\n']).take count = rec.toDict.dumps ++ ['\n'] := by
        refine List.take_of_length_le ?_
        rw [List.length_append]
        exact beyond
      rw [appendPart, part]
      exact load_append_finished laws.inverts distinct finished loaded

end Parts

/-- The second record of a journal, cut off at three places. -/
theorem load_appendPart_emptyRecord :
    let content := append none emptyRecord
    ∃ first, RecordSame emptyRecord first ∧ load readLoads content = .ok [first] ∧
      load readLoads (appendPart content emptyRecord 0) = .ok [first] ∧
      (∃ message, load readLoads (appendPart content emptyRecord 20) =
        .error (.valueError ("journal corrupt at line 2: " ++ message))) ∧
      ∃ again, load readLoads (appendPart content emptyRecord 200) = .ok [first, again] ∧
        RecordSame emptyRecord again := by
  intro content
  have empty : load readLoads none = .ok [] := rfl
  have appended : ∃ again, load readLoads content = .ok ([] ++ [again]) ∧ RecordSame emptyRecord again :=
    load_append_finished readLoads_laws.inverts distinct_emptyRecord rfl empty
  obtain ⟨first, loaded, same⟩ := appended
  have oneLine : (splitlines (universalNewlines (content.getD []))).length = 1 := by decide +kernel
  have parts := load_appendPart readLoads_cutLaws distinct_emptyRecord (unfinished_append none emptyRecord) loaded
  have cut := (parts 20).2.1 (by decide) (by decide)
  rw [oneLine] at cut
  exact ⟨first, same, loaded, (parts 0).1 rfl, cut, (parts 200).2.2 (by decide)⟩

end Journal

end DongleRescue.Repair
