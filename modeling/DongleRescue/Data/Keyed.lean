import Mathlib.Data.List.Sort

namespace DongleRescue.Data.Keyed

/-! Values under distinct keys.  Sorted by key, two lists of them are equal when one
rearranges the other. -/

section Sorting

variable {κ α β : Type*} [LinearOrder κ]

def ByKey (left right : κ × α) : Prop := left.1 ≤ right.1

instance : DecidableRel (@ByKey κ α _) := fun _ _ => inferInstanceAs (Decidable (_ ≤ _))

instance : Std.Total (@ByKey κ α _) := ⟨fun left right => le_total left.1 right.1⟩

instance : IsTrans (κ × α) ByKey := ⟨fun _ _ _ => le_trans⟩

def sorted (items : List (κ × α)) : List (κ × α) := items.insertionSort ByKey

theorem sorted_perm (items : List (κ × α)) : (sorted items).Perm items :=
  List.perm_insertionSort ByKey items

theorem map_sorted (f : α → β) (items : List (κ × α)) :
    (sorted items).map (Prod.map id f) = sorted (items.map (Prod.map id f)) :=
  List.map_insertionSort ByKey ByKey (Prod.map id f) items fun _ _ _ _ => Iff.rfl

theorem sorted_sorted (items : List (κ × α)) : sorted (sorted items) = sorted items :=
  (List.pairwise_insertionSort ByKey items).insertionSort_eq

theorem sorted_eq_iff_perm {first second : List (κ × α)} (distinct : (first.map Prod.fst).Nodup) :
    sorted first = sorted second ↔ first.Perm second := by
  constructor
  · intro same
    exact (sorted_perm first).symm.trans (same ▸ sorted_perm second)
  · intro perm
    have whole : (sorted first).Perm (sorted second) :=
      (sorted_perm first).trans (perm.trans (sorted_perm second).symm)
    refine whole.eq_of_pairwise ?_ (List.pairwise_insertionSort ByKey first)
      (List.pairwise_insertionSort ByKey second)
    intro left right inFirst inSecond below above
    refine List.inj_on_of_nodup_map distinct ?_ ?_ (le_antisymm below above)
    · exact (sorted_perm first).mem_iff.mp inFirst
    · exact perm.mem_iff.mpr ((sorted_perm second).mem_iff.mp inSecond)

/-- A search in key order finds a hit of the least key. -/
theorem find?_sorted {items : List (κ × α)} {hit : κ × α → Bool} {found : κ × α}
    (first : (sorted items).find? hit = some found) :
    found ∈ items ∧ hit found = true ∧ ∀ other ∈ items, hit other = true → found.1 ≤ other.1 := by
  obtain ⟨hits, before, after, split, missed⟩ := List.find?_eq_some_iff_append.mp first
  have ordered : (before ++ found :: after).Pairwise ByKey :=
    split ▸ List.pairwise_insertionSort ByKey items
  obtain ⟨_, rest, _⟩ := List.pairwise_append.mp ordered
  obtain ⟨least, _⟩ := List.pairwise_cons.mp rest
  refine ⟨(sorted_perm items).mem_iff.mp (List.mem_of_find?_eq_some first), hits, ?_⟩
  intro other member hit
  have inSorted := (sorted_perm items).mem_iff.mpr member
  rw [split, List.mem_append, List.mem_cons] at inSorted
  rcases inSorted with early | same | late
  · have miss := missed other early
    rw [hit] at miss
    cases miss
  · rw [same]
  · exact least other late

/-- The item that is found first in key order. -/
structure Least (wanted : κ × α → Prop) (items : List (κ × α)) (item : κ × α) : Prop where
  member : item ∈ items
  holds : wanted item
  below : ∀ other ∈ items, wanted other → item.1 ≤ other.1

variable {wanted : κ × α → Prop} {items : List (κ × α)} {item item' : κ × α}

theorem Least.key_eq (least : Least wanted items item) (least' : Least wanted items item') : item.1 = item'.1 :=
  le_antisymm (least.below item' least'.member least'.holds) (least'.below item least.member least.holds)

theorem exists_least (found : ∃ item ∈ items, wanted item) : ∃ item, Least wanted items item := by
  classical
  obtain ⟨item, member, holds⟩ := found
  have some : ((sorted items).find? fun item => decide (wanted item)).isSome := by
    rw [List.find?_isSome]
    exact ⟨item, (sorted_perm items).mem_iff.mpr member, decide_eq_true holds⟩
  obtain ⟨first, search⟩ := Option.isSome_iff_exists.mp some
  obtain ⟨inItems, hits, below⟩ := find?_sorted search
  exact ⟨first, inItems, of_decide_eq_true hits, fun other inItems holds => below other inItems (decide_eq_true holds)⟩

end Sorting

end DongleRescue.Data.Keyed
