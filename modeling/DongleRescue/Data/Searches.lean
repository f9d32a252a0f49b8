import DongleRescue.Data.Python

namespace DongleRescue.Data

/-! Searches whose probes can raise.  Every item is probed before one is chosen, so a probe
that raises is the outcome of the whole search. -/

section Searches

variable {α β : Type} {probe other : α → Py (Option β)} {accepted : β → Bool} {items : List α} {item : α}

def searchAll (probe : α → Py (Option β)) (accepted : β → Bool) : List α → Py (Option β)
  | [] => .ok none
  | item :: items => do
      let found ← probe item
      let later ← searchAll probe accepted items
      return (found.filter accepted).or later

/-- What an item gives to the search. -/
def finding (probe : α → Py (Option β)) (accepted : β → Bool) (item : α) : Option β :=
  match probe item with
  | .ok found => found.filter accepted
  | .error _ => none

theorem finding_eq_some_iff {found : β} :
    finding probe accepted item = some found ↔ probe item = .ok (some found) ∧ accepted found = true := by
  unfold finding
  cases probe item with
  | error failure => simp
  | ok found => simp [Option.filter_eq_some_iff]

/-- It is the search of a program that collects the findings first. -/
theorem searchAll_eq_mapM : searchAll probe accepted items =
    (items.mapM probe).map fun found => (found.filterMap id).find? accepted := by
  induction items with
  | nil => rfl
  | cons item items ih =>
      rw [searchAll, List.mapM_cons, ih]
      cases probe item with
      | error failure => rfl
      | ok found =>
          cases items.mapM probe with
          | error failure => rfl
          | ok rest =>
              refine congrArg Except.ok ?_
              cases found with
              | none => rfl
              | some found =>
                  change (Option.filter accepted (some found)).or _ = (found :: rest.filterMap id).find? accepted
                  rw [Option.filter_some, List.find?_cons]
                  cases accepted found with
                  | true => rfl
                  | false => rfl

theorem searchAll_congr (same : ∀ item ∈ items, probe item = other item) :
    searchAll probe accepted items = searchAll other accepted items := by
  induction items with
  | nil => rfl
  | cons item items ih =>
      obtain ⟨here, later⟩ := List.forall_mem_cons.mp same
      rw [searchAll, searchAll, here, ih later]

theorem exists_of_searchAll {value : β} (found : searchAll probe accepted items = .ok (some value)) :
    ∃ item ∈ items, probe item = .ok (some value) ∧ accepted value = true := by
  induction items with
  | nil => cases found
  | cons item items ih =>
      rw [searchAll] at found
      obtain ⟨first, probed, found⟩ := bind_ok found
      obtain ⟨later, rest, found⟩ := bind_ok found
      rcases Option.or_eq_some_iff.mp (Except.ok.inj found) with here | ⟨_, there⟩
      · obtain ⟨same, accepts⟩ := Option.filter_eq_some_iff.mp here
        exact ⟨item, by simp, same ▸ probed, accepts⟩
      · obtain ⟨other, member, hit⟩ := ih (there ▸ rest)
        exact ⟨other, by simp [member], hit⟩

/-- Without a failure the outcome is the first finding. -/
theorem searchAll_of_returns (returns : ∀ item ∈ items, ∃ found, probe item = .ok found) :
    searchAll probe accepted items = .ok (items.findSome? (finding probe accepted)) := by
  induction items with
  | nil => rfl
  | cons item items ih =>
      obtain ⟨⟨found, probed⟩, later⟩ := List.forall_mem_cons.mp returns
      have value : finding probe accepted item = found.filter accepted := by rw [finding, probed]
      rw [searchAll, ih later, List.findSome?_cons, value, probed]
      refine congrArg Except.ok ?_
      cases found.filter accepted with
      | none => rfl
      | some found => rfl

/-- A failure is the outcome, and stays the outcome when items that return are left out. -/
theorem searchAll_filter_of_raises {keep : α → Bool}
    (returns : ∀ item ∈ items, keep item = false → ∃ found, probe item = .ok found)
    (raises : ¬ ∀ item ∈ items, ∃ found, probe item = .ok found) :
    ∃ failure, searchAll probe accepted items = .error failure ∧
      searchAll probe accepted (items.filter keep) = .error failure := by
  induction items with
  | nil => simp at raises
  | cons item items ih =>
      obtain ⟨here, later⟩ := List.forall_mem_cons.mp returns
      cases probed : probe item with
      | error failure =>
          have kept : keep item = true := by
            rw [← Bool.not_eq_false]
            intro dropped
            obtain ⟨found, returned⟩ := here dropped
            cases probed.symm.trans returned
          rw [List.filter_cons_of_pos kept, searchAll, searchAll, probed]
          exact ⟨failure, rfl, rfl⟩
      | ok found =>
          obtain ⟨failure, whole, filtered⟩ := ih later fun all =>
            raises (List.forall_mem_cons.mpr ⟨⟨found, probed⟩, all⟩)
          refine ⟨failure, ?_, ?_⟩
          · rw [searchAll, probed, whole]
            rfl
          · cases kept : keep item with
            | true =>
                rw [List.filter_cons_of_pos kept, searchAll, probed, filtered]
                rfl
            | false => rw [List.filter_cons_of_neg (by simp [kept]), filtered]

theorem findSome?_eq_bind_find? {f : α → Option β} :
    items.findSome? f = (items.find? fun item => (f item).isSome).bind f := by
  induction items with
  | nil => rfl
  | cons item items ih =>
      rw [List.findSome?_cons, List.find?_cons]
      cases found : f item with
      | some value => exact found.symm
      | none => exact ih

/-- In sorted order only what comes before the first hit matters. -/
theorem find?_sortTexts_filter {names : List Str} {hit keep : Str → Bool}
    (earlier : ∀ name ∈ names, keep name = false → hit name = true →
      ∃ kept ∈ names, keep kept = true ∧ hit kept = true ∧ kept < name) :
    (sortTexts names).find? hit = ((sortTexts names).filter keep).find? hit := by
  rw [List.find?_filter]
  refine Option.ext fun text => ?_
  rw [find?_sortTexts_iff, find?_sortTexts_iff]
  constructor
  · rintro ⟨member, hits, least⟩
    have kept : keep text = true := by
      rw [← Bool.not_eq_false]
      intro dropped
      obtain ⟨other, inNames, _, hits', below⟩ := earlier text member dropped hits
      exact absurd (least other inNames hits') (not_le.mpr below)
    refine ⟨member, by simp [kept, hits], fun other inNames both => least other inNames ?_⟩
    exact (of_decide_eq_true both).2
  · rintro ⟨member, both, least⟩
    obtain ⟨_, hits⟩ := of_decide_eq_true both
    refine ⟨member, hits, fun other inNames hits' => ?_⟩
    cases kept : keep other with
    | true => exact least other inNames (by simp [kept, hits'])
    | false =>
        obtain ⟨first, inNames', kept', hits'', below⟩ := earlier other inNames kept hits'
        exact (least first inNames' (by simp [kept', hits''])).trans below.le

/-- Items that return, and hit only after a kept hit, can be left out of a sorted search. -/
theorem searchAll_sortTexts_filter {probe : Str → Py (Option β)} {names : List Str} {keep : Str → Bool}
    (returns : ∀ name ∈ names, keep name = false → ∃ found, probe name = .ok found)
    (earlier : ∀ name ∈ names, keep name = false → (finding probe accepted name).isSome = true →
      ∃ kept ∈ names, keep kept = true ∧ (finding probe accepted kept).isSome = true ∧ kept < name) :
    searchAll probe accepted (sortTexts names) = searchAll probe accepted ((sortTexts names).filter keep) := by
  have returns' : ∀ name ∈ sortTexts names, keep name = false → ∃ found, probe name = .ok found :=
    fun name member => returns name ((sortTexts_perm names).mem_iff.mp member)
  by_cases all : ∀ name ∈ sortTexts names, ∃ found, probe name = .ok found
  · rw [searchAll_of_returns all, searchAll_of_returns fun name member => all name (List.mem_of_mem_filter member),
      findSome?_eq_bind_find?, findSome?_eq_bind_find?, find?_sortTexts_filter earlier]
  · obtain ⟨failure, whole, filtered⟩ := @searchAll_filter_of_raises _ _ _ accepted _ _ returns' all
    rw [whole, filtered]

end Searches

end DongleRescue.Data
