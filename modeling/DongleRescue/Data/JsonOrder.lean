import DongleRescue.Data.Json
import DongleRescue.Data.Keyed

namespace DongleRescue.Data.Json

/-! JSON values up to the order of keys. -/

@[induction_eliminator]
theorem inductionOn {motive : Json → Prop} (null : motive .null)
    (bool : ∀ value, motive (.bool value)) (int : ∀ value, motive (.int value))
    (float : ∀ number, motive (.float number)) (str : ∀ value, motive (.str value))
    (list : ∀ items, (∀ item ∈ items, motive item) → motive (.list items))
    (dict : ∀ items, (∀ item ∈ items, motive item.2) → motive (.dict items)) (value : Json) :
    motive value :=
  @Json.rec motive (fun items => ∀ item ∈ items, motive item)
    (fun items => ∀ item ∈ items, motive item.2) (fun item => motive item.2)
    null bool int float str list dict
    (List.forall_mem_nil _)
    (fun _ _ first later => List.forall_mem_cons.mpr ⟨first, later⟩)
    (List.forall_mem_nil _)
    (fun _ _ first later => List.forall_mem_cons.mpr ⟨first, later⟩)
    (fun _ _ value => value) value

mutual

/-- Equal, except that each dict may list its keys in an order of its own. -/
def Same : Json → Json → Prop
  | null, null => True
  | bool left, bool right => left = right
  | int left, int right => left = right
  | float left, float right => left = right
  | str left, str right => left = right
  | list left, list right => SameList left right
  | dict left, dict right => SameItems left right
  | _, _ => False

def SameList : List Json → List Json → Prop
  | [], [] => True
  | left :: lefts, right :: rights => Same left right ∧ SameList lefts rights
  | _, _ => False

/-- Each item has its counterpart, wherever it stands. -/
def SameItems : List (Str × Json) → List (Str × Json) → Prop
  | [], others => others = []
  | (key, value) :: items, others => ∃ before other after,
      others = before ++ (key, other) :: after ∧ Same value other ∧ SameItems items (before ++ after)

end

mutual

/-- The keys of a dict are distinct, as they are in Python. -/
def DistinctKeys : Json → Prop
  | list items => DistinctKeysList items
  | dict items => (items.map Prod.fst).Nodup ∧ DistinctKeysItems items
  | _ => True

def DistinctKeysList : List Json → Prop
  | [] => True
  | item :: items => DistinctKeys item ∧ DistinctKeysList items

def DistinctKeysItems : List (Str × Json) → Prop
  | [] => True
  | (_, value) :: items => DistinctKeys value ∧ DistinctKeysItems items

end

mutual

def sortKeys : Json → Json
  | list items => list (sortKeysList items)
  | dict items => dict (Keyed.sorted (sortKeysItems items))
  | value => value

def sortKeysList : List Json → List Json
  | [] => []
  | item :: items => sortKeys item :: sortKeysList items

def sortKeysItems : List (Str × Json) → List (Str × Json)
  | [] => []
  | (key, value) :: items => (key, sortKeys value) :: sortKeysItems items

end

section Lists

theorem distinctKeysList_iff {items : List Json} :
    DistinctKeysList items ↔ ∀ item ∈ items, DistinctKeys item := by
  induction items with
  | nil => simp [DistinctKeysList]
  | cons item items ih => rw [DistinctKeysList, List.forall_mem_cons, ih]

theorem distinctKeysItems_iff {items : List (Str × Json)} :
    DistinctKeysItems items ↔ ∀ item ∈ items, DistinctKeys item.2 := by
  induction items with
  | nil => simp [DistinctKeysItems]
  | cons item items ih => rw [DistinctKeysItems, List.forall_mem_cons, ih]

theorem sortKeysList_eq (items : List Json) : sortKeysList items = items.map sortKeys := by
  induction items with
  | nil => rfl
  | cons item items ih => rw [sortKeysList, ih, List.map_cons]

theorem sortKeysItems_eq (items : List (Str × Json)) :
    sortKeysItems items = items.map (Prod.map id sortKeys) := by
  induction items with
  | nil => rfl
  | cons item items ih =>
      obtain ⟨key, value⟩ := item
      rw [sortKeysItems, ih, List.map_cons]
      rfl

theorem map_fst_sortKeysItems (items : List (Str × Json)) :
    (sortKeysItems items).map Prod.fst = items.map Prod.fst := by
  rw [sortKeysItems_eq, List.map_map]
  rfl

end Lists

section Sorting

private theorem sameList_iff {items others : List Json}
    (each : ∀ item ∈ items, ∀ other, Same item other ↔ sortKeys item = sortKeys other) :
    SameList items others ↔ sortKeysList items = sortKeysList others := by
  rw [sortKeysList_eq, sortKeysList_eq]
  induction items generalizing others with
  | nil =>
      cases others with
      | nil => simp [SameList]
      | cons other others => simp [SameList]
  | cons item items ih =>
      cases others with
      | nil => simp [SameList]
      | cons other others =>
          rw [SameList, each item (by simp), ih fun later member => each later (by simp [member]),
            List.map_cons, List.map_cons, List.cons.injEq]

private theorem sameItems_iff {items others : List (Str × Json)}
    (each : ∀ item ∈ items, ∀ other, Same item.2 other ↔ sortKeys item.2 = sortKeys other) :
    SameItems items others ↔ (sortKeysItems items).Perm (sortKeysItems others) := by
  rw [sortKeysItems_eq, sortKeysItems_eq]
  induction items generalizing others with
  | nil => simp [SameItems]
  | cons item items ih =>
      obtain ⟨key, value⟩ := item
      have later : ∀ {others}, SameItems items others ↔
          (items.map (Prod.map id sortKeys)).Perm (others.map (Prod.map id sortKeys)) :=
        ih fun item member => each item (by simp [member])
      rw [SameItems, List.map_cons]
      constructor
      · intro ⟨before, other, after, split, same, rest⟩
        have head : Prod.map id sortKeys (key, value) = Prod.map id sortKeys (key, other) :=
          congrArg (Prod.mk key) ((each (key, value) (by simp) other).mp same)
        have tail := later.mp rest
        rw [List.map_append] at tail
        rw [split, List.map_append, List.map_cons, head]
        exact (tail.cons _).trans List.perm_middle.symm
      · intro perm
        have member : Prod.map id sortKeys (key, value) ∈ others.map (Prod.map id sortKeys) :=
          perm.mem_iff.mp (by simp)
        obtain ⟨⟨otherKey, other⟩, inOthers, image⟩ := List.mem_map.mp member
        obtain ⟨sameKey, sameValue⟩ := Prod.mk.inj image
        obtain ⟨before, after, split⟩ := List.append_of_mem inOthers
        refine ⟨before, other, after, ?_, (each (key, value) (by simp) other).mpr sameValue.symm, ?_⟩
        · rw [split, show key = otherKey from sameKey.symm]
        · rw [split, List.map_append, List.map_cons, image] at perm
          apply later.mpr
          rw [List.map_append]
          exact (perm.trans List.perm_middle).cons_inv

/-- Sorting the keys of every dict decides sameness. -/
theorem same_iff {value other : Json} (distinct : value.DistinctKeys) :
    Same value other ↔ sortKeys value = sortKeys other := by
  induction value generalizing other with
  | null => cases other <;> simp [Same, sortKeys]
  | bool left => cases other <;> simp [Same, sortKeys]
  | int left => cases other <;> simp [Same, sortKeys]
  | float left => cases other <;> simp [Same, sortKeys]
  | str left => cases other <;> simp [Same, sortKeys]
  | list items ih =>
      cases other with
      | list others =>
          rw [DistinctKeys, distinctKeysList_iff] at distinct
          rw [Same, sameList_iff fun item member other => ih item member (distinct item member),
            sortKeys, sortKeys, list.injEq]
      | _ => simp [Same, sortKeys]
  | dict items ih =>
      cases other with
      | dict others =>
          rw [DistinctKeys, distinctKeysItems_iff] at distinct
          rw [Same, sameItems_iff fun item member other => ih item member (distinct.2 item member),
            sortKeys, sortKeys, dict.injEq, Keyed.sorted_eq_iff_perm]
          rw [map_fst_sortKeysItems]
          exact distinct.1
      | _ => simp [Same, sortKeys]

end Sorting

theorem sortKeys_sortKeys (value : Json) : sortKeys (sortKeys value) = sortKeys value := by
  induction value with
  | null => rfl
  | bool value => rfl
  | int value => rfl
  | float number => rfl
  | str value => rfl
  | list items ih =>
      have values : items.map (sortKeys ∘ sortKeys) = items.map sortKeys := List.map_congr_left ih
      rw [sortKeys, sortKeys, sortKeysList_eq, sortKeysList_eq, List.map_map, values]
  | dict items ih =>
      have values : (sortKeysItems items).map (Prod.map id sortKeys) = sortKeysItems items := by
        rw [sortKeysItems_eq, List.map_map]
        exact List.map_congr_left fun item member => congrArg (Prod.mk item.1) (ih item member)
      rw [sortKeys, sortKeys, sortKeysItems_eq (Keyed.sorted _), Keyed.map_sorted, values,
        Keyed.sorted_sorted]

theorem same_str {text : Str} {value : Json} (same : Same (.str text) value) : value = .str text := by
  cases value with
  | str other => rw [show text = other from same]
  | _ => exact same.elim

theorem Same.trans {first second third : Json} (distinct : first.DistinctKeys)
    (distinct' : second.DistinctKeys) (left : Same first second) (right : Same second third) :
    Same first third :=
  (same_iff distinct).mpr (((same_iff distinct).mp left).trans ((same_iff distinct').mp right))

section Lookups

variable {items others : List (Str × Json)} {key : Str} {value : Json}

theorem lookup_eq_some_iff (distinct : (items.map Prod.fst).Nodup) :
    lookup key items = some value ↔ (key, value) ∈ items := by
  constructor
  · intro found
    obtain ⟨item, first, same⟩ := Option.map_eq_some_iff.mp found
    have sameKey : item.1 = key := by simpa using List.find?_some first
    rw [← sameKey, ← same]
    exact List.mem_of_find?_eq_some first
  · intro member
    have some : (lookup key items).isSome = true := by
      rw [lookup, Option.isSome_map, List.find?_isSome]
      exact ⟨(key, value), member, by simp⟩
    obtain ⟨other, found⟩ := Option.isSome_iff_exists.mp some
    obtain ⟨item, first, same⟩ := Option.map_eq_some_iff.mp found
    have sameKey : item.1 = key := by simpa using List.find?_some first
    have equal := List.inj_on_of_nodup_map distinct (List.mem_of_find?_eq_some first) member sameKey
    rw [found, ← same, equal]

theorem SameItems.keys_perm (same : SameItems items others) :
    (items.map Prod.fst).Perm (others.map Prod.fst) := by
  induction items generalizing others with
  | nil => rw [SameItems] at same; simp [same]
  | cons item items ih =>
      obtain ⟨key, value⟩ := item
      obtain ⟨before, other, after, split, _, rest⟩ := same
      have tail := ih rest
      rw [List.map_append] at tail
      rw [split, List.map_append, List.map_cons, List.map_cons]
      exact (tail.cons key).trans List.perm_middle.symm

theorem SameItems.exists_of_mem (same : SameItems items others) (member : (key, value) ∈ items) :
    ∃ other, (key, other) ∈ others ∧ Same value other := by
  induction items generalizing others with
  | nil => cases member
  | cons item items ih =>
      obtain ⟨firstKey, first⟩ := item
      obtain ⟨before, other, after, split, sameFirst, rest⟩ := same
      rcases List.mem_cons.mp member with here | later
      · cases here
        exact ⟨other, by simp [split], sameFirst⟩
      · obtain ⟨found, inRest, sameValue⟩ := ih rest later
        refine ⟨found, ?_, sameValue⟩
        rw [split, List.mem_append, List.mem_cons]
        rcases List.mem_append.mp inRest with inBefore | inAfter
        · exact .inl inBefore
        · exact .inr (.inr inAfter)

theorem SameItems.lookup (same : SameItems items others) (distinct : (items.map Prod.fst).Nodup)
    (found : Json.lookup key items = some value) :
    ∃ other, Json.lookup key others = some other ∧ Same value other := by
  obtain ⟨other, member, sameValue⟩ := same.exists_of_mem ((lookup_eq_some_iff distinct).mp found)
  have distinct' := same.keys_perm.nodup_iff.mp distinct
  exact ⟨other, (lookup_eq_some_iff distinct').mpr member, sameValue⟩

end Lookups

end DongleRescue.Data.Json
