import Mathlib.Data.List.GetD
import Mathlib.Data.List.Lex
import Mathlib.Data.Prod.Lex
import Mathlib.Order.PiLex

namespace DongleRescue.Data

/-! Sequences of numbers in two orders.  As tuples, the first difference decides and of a sequence
and a longer one the longer is greater; as versions, what is missing counts as zero. -/

section Parting

variable {α : Type*} {left right : List α}

/-- The four ways in which two sequences compare. -/
inductive Parting : List α → List α → Prop where
  | same (parts : List α) : Parting parts parts
  | shorter (parts : List α) (next : α) (rest : List α) : Parting parts (parts ++ next :: rest)
  | longer (parts : List α) (next : α) (rest : List α) : Parting (parts ++ next :: rest) parts
  | differ (front : List α) {first second : α} (rest rest' : List α) (other : first ≠ second) :
      Parting (front ++ first :: rest) (front ++ second :: rest')

theorem Parting.cons (first : α) (parting : Parting left right) : Parting (first :: left) (first :: right) := by
  cases parting with
  | same => exact .same _
  | shorter _ next rest => exact .shorter (first :: left) next rest
  | longer _ next rest => exact .longer (first :: right) next rest
  | differ front rest rest' other => exact .differ (first :: front) rest rest' other

theorem parting (left right : List α) : Parting left right := by
  induction left generalizing right with
  | nil =>
      cases right with
      | nil => exact .same []
      | cons next rest => exact .shorter [] next rest
  | cons first left ih =>
      cases right with
      | nil => exact .longer [] first left
      | cons second right =>
          by_cases same : first = second
          · rw [same]
            exact (ih right).cons second
          · exact .differ [] left right same

end Parting

section Tuples

variable {α β : Type*} [LinearOrder α] [LinearOrder β] {front left right : List α}

theorem append_lt_append_iff : front ++ left < front ++ right ↔ left < right := by
  induction front with
  | nil => exact Iff.rfl
  | cons first front ih => rw [List.cons_append, List.cons_append, List.cons_lt_cons_self, ih]

theorem cons_lt_cons_of_ne {first second : α} (other : first ≠ second) :
    first :: left < second :: right ↔ first < second := by
  rw [List.cons_lt_cons_iff]
  exact or_iff_left fun both => other both.1

theorem singleton_lt_cons_iff {first second : α} (nonempty : right ≠ []) :
    [first] < second :: right ↔ first ≤ second := by
  obtain ⟨third, rest, same⟩ := List.exists_cons_of_ne_nil nonempty
  rw [List.cons_lt_cons_iff, same, le_iff_lt_or_eq]
  exact or_congr_right (and_iff_left (List.nil_lt_cons third rest))

theorem cons_lt_singleton_iff {first second : α} : first :: left < [second] ↔ first < second := by
  rw [List.cons_lt_cons_iff]
  exact or_iff_left fun both => List.not_lt_nil left both.2

/-- A tuple is not above another one when it is the lower one where they part first, and does not
go on where the other one ends. -/
theorem not_lt_iff : ¬ right < left ↔
    (∀ front first second rest rest', left = front ++ first :: rest → right = front ++ second :: rest' →
      first ≤ second) ∧ ∀ next rest, left ≠ right ++ next :: rest := by
  constructor
  · intro notAbove
    refine ⟨?_, ?_⟩
    · rintro front first second rest rest' rfl rfl
      rw [append_lt_append_iff, List.cons_lt_cons_iff] at notAbove
      exact not_lt.mp fun below => notAbove (.inl below)
    · rintro next rest rfl
      have ends : right ++ [] < right ++ next :: rest := append_lt_append_iff.mpr (List.nil_lt_cons next rest)
      rw [List.append_nil] at ends
      exact notAbove ends
  · intro ⟨lower, ends⟩ above
    cases parting left right with
    | same => exact lt_irrefl _ above
    | shorter _ next rest =>
        have beyond : left ++ next :: rest < left ++ [] := by rwa [List.append_nil]
        exact List.not_lt_nil _ (append_lt_append_iff.mp beyond)
    | longer _ next rest => exact ends next rest rfl
    | @differ front first second rest rest' other =>
        rw [append_lt_append_iff, cons_lt_cons_of_ne other.symm] at above
        exact absurd (lower front first second rest rest' rfl rfl) (not_le.mpr above)

theorem map_lt_map_iff {f : α → β} (mono : StrictMono f) : left.map f < right.map f ↔ left < right := by
  constructor
  · intro below
    rcases lt_trichotomy left right with lower | same | higher
    · exact lower
    · rw [same] at below
      exact absurd below (lt_irrefl _)
    · exact absurd below (lt_asymm (List.map_lt (fun _ _ => @mono _ _) higher))
  · exact List.map_lt fun _ _ => @mono _ _

end Tuples

section Versions

variable {parts front rest rest' : List ℕ} {first second : ℕ}

/-- A version, followed by zeros. -/
def padded (parts : List ℕ) : Lex (ℕ → ℕ) := toLex fun i => parts.getD i 0

theorem padded_lt_iff {left right : List ℕ} : padded left < padded right ↔
    ∃ i, (∀ j < i, left.getD j 0 = right.getD j 0) ∧ left.getD i 0 < right.getD i 0 := Iff.rfl

theorem getD_append_length (front : List ℕ) (first : ℕ) (rest : List ℕ) :
    (front ++ first :: rest).getD front.length 0 = first := by
  rw [List.getD_append_right front _ 0 _ le_rfl, Nat.sub_self, List.getD_cons_zero]

/-- The first difference decides between versions too. -/
theorem padded_lt_of_ne (other : first ≠ second) :
    padded (front ++ first :: rest) < padded (front ++ second :: rest') ↔ first < second := by
  have early : ∀ j < front.length, (front ++ first :: rest).getD j 0 = (front ++ second :: rest').getD j 0 := by
    intro j below
    rw [List.getD_append _ _ _ _ below, List.getD_append _ _ _ _ below]
  rw [padded_lt_iff]
  constructor
  · intro ⟨i, same, below⟩
    rcases lt_trichotomy i front.length with lower | here | higher
    · rw [early i lower] at below
      exact absurd below (lt_irrefl _)
    · rwa [here, getD_append_length, getD_append_length] at below
    · have parted := same front.length higher
      rw [getD_append_length, getD_append_length] at parted
      exact absurd parted other
  · intro below
    refine ⟨front.length, early, ?_⟩
    rwa [getD_append_length, getD_append_length]

theorem padded_ne_of_ne (other : first ≠ second) :
    padded (front ++ first :: rest) ≠ padded (front ++ second :: rest') := by
  intro same
  have here := congrFun same front.length
  have parted : (front ++ first :: rest).getD front.length 0 = (front ++ second :: rest').getD front.length 0 := here
  rw [getD_append_length, getD_append_length] at parted
  exact other parted

theorem not_padded_append_lt (parts rest : List ℕ) : ¬ padded (parts ++ rest) < padded parts := by
  intro below
  obtain ⟨i, _, below⟩ := padded_lt_iff.mp below
  by_cases within : i < parts.length
  · rw [List.getD_append _ _ _ _ within] at below
    exact lt_irrefl _ below
  · rw [List.getD_eq_default parts 0 (not_lt.mp within)] at below
    exact Nat.not_lt_zero _ below

theorem padded_append_eq_iff : padded parts = padded (parts ++ rest) ↔ ∀ n ∈ rest, n = 0 := by
  constructor
  · intro same n member
    obtain ⟨i, inside, value⟩ := List.mem_iff_getElem.mp member
    have here : parts.getD (parts.length + i) 0 = (parts ++ rest).getD (parts.length + i) 0 :=
      congrFun same (parts.length + i)
    rw [List.getD_eq_default _ _ (Nat.le_add_right _ _), List.getD_append_right _ _ _ _ (Nat.le_add_right _ _),
      Nat.add_sub_cancel_left, List.getD_eq_getElem _ _ inside, value] at here
    exact here.symm
  · intro zeros
    refine funext fun i => ?_
    change parts.getD i 0 = (parts ++ rest).getD i 0
    by_cases within : i < parts.length
    · rw [List.getD_append _ _ _ _ within]
    · rw [List.getD_append_right _ _ _ _ (not_lt.mp within), List.getD_eq_default _ _ (not_lt.mp within)]
      by_cases inside : i - parts.length < rest.length
      · rw [List.getD_eq_getElem _ _ inside, zeros _ (List.getElem_mem inside)]
      · rw [List.getD_eq_default _ _ (not_lt.mp inside)]

theorem padded_lt_append_iff : padded parts < padded (parts ++ rest) ↔ ∃ n ∈ rest, n ≠ 0 := by
  constructor
  · intro below
    by_contra zeros
    push Not at zeros
    exact below.ne (padded_append_eq_iff.mpr zeros)
  · intro ⟨n, member, nonzero⟩
    refine lt_of_le_of_ne (not_lt.mp (not_padded_append_lt parts rest)) fun same => ?_
    exact nonzero (padded_append_eq_iff.mp same n member)

end Versions

end DongleRescue.Data
