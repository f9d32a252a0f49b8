import DongleRescue.Repair.JournalRuns
import DongleRescue.Repair.JournalShapes

namespace DongleRescue.Repair

open DongleRescue.Data

/-! How a journal fails to load.  A line that is no JSON is reported with its number; a document
that is no record raises what its subscripts raise. -/

section Records

variable {key message : Str} {raw : Json}

theorem subscript_error_ne : subscript key raw ≠ .error (.valueError message) := by
  cases raw with
  | dict items =>
      rw [subscript]
      cases Json.lookup key items with
      | none => simp
      | some value => simp
  | _ => simp [subscript]

theorem bind_error_ne {α β : Type} {first : Py α} {next : α → Py β} {failure : PyError}
    (here : first ≠ .error failure) (later : ∀ value, next value ≠ .error failure) :
    first >>= next ≠ .error failure := by
  cases first with
  | error other =>
      intro same
      exact here (congrArg Except.error (Except.error.inj same))
  | ok value => exact later value

/-- A document that holds no record is refused, but not as a value. -/
theorem recordOf_error_ne : recordOf raw ≠ .error (.valueError message) := by
  unfold recordOf
  refine bind_error_ne subscript_error_ne fun _ => ?_
  refine bind_error_ne subscript_error_ne fun _ => ?_
  refine bind_error_ne subscript_error_ne fun _ => ?_
  refine bind_error_ne subscript_error_ne fun _ => ?_
  exact bind_error_ne subscript_error_ne fun _ => by simp [pure, Except.pure]

end Records

namespace Journal

def corruptAt (number : Nat) (detail : Str) : Str := "journal corrupt at line " ++ decimal number ++ ": " ++ detail

/-- The line that `number` counts, from `start` on, is the first one that holds no record. -/
structure FirstCorrupt (loads : Loads) (start : Nat) (lines : List Str) (number : Nat) (line : Str) : Prop where
  split : ∃ before after, lines = before ++ line :: after ∧ number = start + before.length ∧
    ∀ earlier ∈ before, strip earlier ≠ [] → ∃ rec, Stored loads earlier rec
  nonblank : strip line ≠ []
  corrupt : ¬ ∃ rec, Stored loads line rec

section Lines

variable {loads : Loads} {start number : Nat} {line : Str} {lines : List Str} {failure : PyError}

theorem exists_loadLines (stored : ∀ line ∈ lines, strip line ≠ [] → ∃ rec, Stored loads line rec) :
    ∃ records, loadLines loads start lines = .ok records := by
  have read : ∀ line ∈ lines.filter fun line => decide (strip line ≠ []), ∃ rec,
      loadLine loads start line = .ok rec := by
    intro line member
    obtain ⟨inLines, nonblank⟩ := List.mem_filter.mp member
    obtain ⟨rec, holds⟩ := stored line inLines (of_decide_eq_true nonblank)
    exact ⟨rec, loadLine_ok_iff.mpr holds⟩
  obtain ⟨records, loaded⟩ := mapM_returns read
  exact ⟨records, loadLines_ok_iff.mpr ((forall₂_of_mapM loaded).imp fun _ _ => loadLine_ok_iff.mp)⟩

/-- The load stops where the first corrupt line stops it. -/
theorem FirstCorrupt.stops (first : FirstCorrupt loads start lines number line)
    (failed : loadLine loads number line = .error failure) : loadLines loads start lines = .error failure := by
  obtain ⟨before, after, same, counted, stored⟩ := first.split
  obtain ⟨records, loaded⟩ := @exists_loadLines loads start before stored
  rw [same, loadLines_append, loaded, ← counted, loadLines, if_neg first.nonblank, failed]
  rfl

theorem FirstCorrupt.fails (first : FirstCorrupt loads start lines number line) :
    ∃ failure, loadLine loads number line = .error failure := by
  cases loaded : loadLine loads number line with
  | error failure => exact ⟨failure, rfl⟩
  | ok rec => exact absurd ⟨rec, loadLine_ok_iff.mp loaded⟩ first.corrupt

theorem exists_firstCorrupt (corrupt : ∃ line ∈ lines, strip line ≠ [] ∧ ¬ ∃ rec, Stored loads line rec) :
    ∃ number line, FirstCorrupt loads start lines number line := by
  induction lines generalizing start with
  | nil => simp at corrupt
  | cons first lines ih =>
      by_cases here : strip first ≠ [] ∧ ¬ ∃ rec, Stored loads first rec
      · exact ⟨start, first, ⟨[], lines, rfl, rfl, List.forall_mem_nil _⟩, here.1, here.2⟩
      · obtain ⟨line, member, found⟩ := corrupt
        have later : line ∈ lines := by
          rcases List.mem_cons.mp member with same | later
          · exact absurd (same ▸ found) here
          · exact later
        obtain ⟨number, line, later⟩ := @ih (start + 1) ⟨line, later, found⟩
        obtain ⟨before, after, same, counted, stored⟩ := later.split
        refine ⟨number, line, ⟨first :: before, after, by rw [same]; rfl, ?_, ?_⟩, later.nonblank, later.corrupt⟩
        · rw [counted, List.length_cons]
          omega
        · refine List.forall_mem_cons.mpr ⟨fun nonblank => ?_, stored⟩
          by_contra none
          exact here ⟨nonblank, none⟩

end Lines

/-- One record for each line that is not blank, or the number of the first line that holds none. -/
def Declared (loads : Loads) (text : Str) : Prop :=
  (∃ records, load loads (some text) = .ok records ∧
      List.Forall₂ (Stored loads) (storedLines (some text)) records) ∨
    ∃ number line detail, FirstCorrupt loads 1 (splitlines (universalNewlines text)) number line ∧
      load loads (some text) = .error (.valueError (corruptAt number detail))

/-- The decoder does not report what only the journal reports. -/
def Foreign (loads : Loads) : Prop :=
  ∀ line number detail, loads line ≠ .error (.other (.valueError (corruptAt number detail)))

section Outcomes

variable {loads : Loads} {number number' : Nat} {line message detail : Str}

theorem loadLine_decodeError (read : loads line = .error (.decodeError message)) :
    loadLine loads number line = .error (.valueError (corruptAt number message)) := by
  rw [loadLine, read]
  rfl

theorem decodeError_of_corruptAt (foreign : Foreign loads)
    (failed : loadLine loads number line = .error (.valueError (corruptAt number' detail))) :
    ∃ message, loads line = .error (.decodeError message) := by
  rw [loadLine] at failed
  cases read : loads line with
  | ok raw =>
      rw [read] at failed
      exact absurd failed recordOf_error_ne
  | error failure =>
      cases failure with
      | decodeError message => exact ⟨message, rfl⟩
      | other failure =>
          rw [read] at failed
          rw [Except.error.inj failed] at read
          exact absurd read (foreign line number' detail)

/-- The journal fails as declared exactly when its first corrupt line is no JSON. -/
theorem declared_iff (text : Str) (foreign : Foreign loads) :
    Declared loads text ↔ ∀ number line,
      FirstCorrupt loads 1 (splitlines (universalNewlines text)) number line →
        ∃ message, loads line = .error (.decodeError message) := by
  constructor
  · intro declared number line first
    obtain ⟨failure, failed⟩ := first.fails
    have stopped : load loads (some text) = .error failure := first.stops failed
    rcases declared with ⟨records, loaded, _⟩ | ⟨number', _, detail, _, named⟩
    · rw [stopped] at loaded
      cases loaded
    · rw [stopped] at named
      rw [Except.error.inj named] at failed
      exact decodeError_of_corruptAt foreign failed
  · intro unread
    by_cases corrupt : ∃ line ∈ splitlines (universalNewlines text), strip line ≠ [] ∧ ¬ ∃ rec, Stored loads line rec
    · obtain ⟨number, line, first⟩ := @exists_firstCorrupt loads 1 _ corrupt
      obtain ⟨message, read⟩ := unread number line first
      exact .inr ⟨number, line, message, first, first.stops (loadLine_decodeError read)⟩
    · have stored : ∀ line ∈ splitlines (universalNewlines text), strip line ≠ [] → ∃ rec, Stored loads line rec := by
        intro line member nonblank
        by_contra none
        exact corrupt ⟨line, member, nonblank, none⟩
      obtain ⟨records, loaded⟩ := @exists_loadLines loads 1 _ stored
      exact .inl ⟨records, loaded, load_ok_iff.mp loaded⟩

end Outcomes

theorem foreign_readLoads : Foreign readLoads := by
  intro line number detail read
  rw [readLoads] at read
  split at read
  · cases read
  · cases read

theorem declared_unread : Declared readLoads "\noops\n" := by
  refine (declared_iff "\noops\n" foreign_readLoads).mpr fun number line first => ?_
  have lines : splitlines (universalNewlines "\noops\n") = [[], "oops"] := rfl
  obtain ⟨before, after, same, _⟩ := first.split
  have member : line ∈ ([[], "oops"] : List Str) := by
    rw [← lines, same]
    simp
  rcases List.mem_pair.mp member with blank | unread
  · exact absurd (congrArg strip blank) first.nonblank
  · rw [unread]
    exact ⟨_, rfl⟩

/-- Documents that are no record end the load with errors of other types. -/
theorem undeclared_documents :
    load readLoads (some "1\n") = .error (.typeError "'int' object is not subscriptable") ∧
      load readLoads (some "\x7b\x7d\n") = .error (.keyError "transaction_id") ∧
      ¬ Declared readLoads "1\n" ∧ ¬ Declared readLoads "\x7b\x7d\n" := by
  have number : load readLoads (some "1\n") = .error (.typeError "'int' object is not subscriptable") := rfl
  have empty : load readLoads (some "\x7b\x7d\n") = .error (.keyError "transaction_id") := rfl
  refine ⟨number, empty, ?_, ?_⟩
  · rintro (⟨records, loaded, _⟩ | ⟨_, _, detail, _, named⟩)
    · rw [number] at loaded
      cases loaded
    · rw [number] at named
      cases named
  · rintro (⟨records, loaded, _⟩ | ⟨_, _, detail, _, named⟩)
    · rw [empty] at loaded
      cases loaded
    · rw [empty] at named
      cases named

end Journal

end DongleRescue.Repair
