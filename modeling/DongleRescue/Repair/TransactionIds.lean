import DongleRescue.Data.JsonRoundTrip
import DongleRescue.Repair.Transaction

namespace DongleRescue.Repair

open DongleRescue.Data

/-! What the id of a transaction says about its content. -/

/-- A dict as the program has it: the keys are distinct at every depth. -/
structure JsonObject where
  items : List (Str × Json)
  distinct : (Json.dict items).DistinctKeys

def JsonObject.value (object : JsonObject) : Json := .dict object.items

/-- The text that is hashed. -/
def payload (beforeState change afterState rollbackAction : Json) : Str :=
  join "|" ([beforeState, change, afterState, rollbackAction].map Json.canonical)

section Canonical

variable {value other : Json}

theorem canonical_eq_of_same (distinct : value.DistinctKeys) (same : Json.Same value other) :
    value.canonical = other.canonical := by
  rw [Json.canonical_eq_encode, Json.canonical_eq_encode, ← Json.encode_sortKeys,
    (Json.same_iff distinct).mp same, Json.encode_sortKeys]

theorem canonical_eq_iff (distinct : value.DistinctKeys) (distinct' : other.DistinctKeys) :
    value.canonical = other.canonical ↔ Json.Same value other := by
  constructor
  · intro same
    rw [Json.canonical_eq_encode, Json.canonical_eq_encode] at same
    have read : Json.readDocument (Json.encode Json.compact value) = _ :=
      Json.readDocument_encode distinct
    rw [same, Json.readDocument_encode distinct', Option.some.injEq] at read
    exact (Json.same_iff distinct).mpr read.symm
  · exact canonical_eq_of_same distinct

/-- A bar after a canonical text ends it: no other canonical text goes on there. -/
theorem canonical_ne_append (distinct : value.DistinctKeys) (distinct' : other.DistinctKeys)
    (rest : Str) : value.canonical ≠ other.canonical ++ '|' :: rest := by
  rw [Json.canonical_eq_encode, Json.canonical_eq_encode]
  intro same
  have read : Json.readDocument (Json.encode Json.compact value) = _ :=
    Json.readDocument_encode distinct
  rw [same, Json.readDocument_extra (Json.readDocument_encode distinct') (by decide) (by decide)] at read
  cases read

end Canonical

theorem payload_eq_iff {before change after rollback before' change' after' rollback' : Json}
    (distinct : ∀ part ∈ [before, change, after, rollback], part.DistinctKeys)
    (distinct' : ∀ part ∈ [before', change', after', rollback'], part.DistinctKeys) :
    payload before change after rollback = payload before' change' after' rollback' ↔
      Json.Same before before' ∧ Json.Same change change' ∧ Json.Same after after' ∧
        Json.Same rollback rollback' := by
  have apart : ∀ first ∈ [before, change, after, rollback].map Json.canonical,
      ∀ second ∈ [before', change', after', rollback'].map Json.canonical, ∀ rest,
        first ≠ second ++ '|' :: rest ∧ second ≠ first ++ '|' :: rest := by
    intro first member second member' rest
    obtain ⟨value, inFirst, same⟩ := List.mem_map.mp member
    obtain ⟨other, inSecond, same'⟩ := List.mem_map.mp member'
    rw [← same, ← same']
    exact ⟨canonical_ne_append (distinct value inFirst) (distinct' other inSecond) rest,
      canonical_ne_append (distinct' other inSecond) (distinct value inFirst) rest⟩
  have joined : payload before change after rollback = payload before' change' after' rollback' ↔ _ :=
    join_eq_iff (List.cons_ne_nil _ _) (List.cons_ne_nil _ _) apart
  rw [joined]
  simp only [List.forall_mem_cons] at distinct distinct'
  simp only [List.map_cons, List.map_nil, List.cons.injEq, and_true]
  rw [canonical_eq_iff distinct.1 distinct'.1, canonical_eq_iff distinct.2.1 distinct'.2.1,
    canonical_eq_iff distinct.2.2.1 distinct'.2.2.1, canonical_eq_iff distinct.2.2.2.1 distinct'.2.2.2.1]

/-- Two transactions hash the same text exactly when they have the same content. -/
theorem payload_eq_iff_same_content
    (before change after rollback before' change' after' rollback' : JsonObject) :
    payload before.value change.value after.value rollback.value =
        payload before'.value change'.value after'.value rollback'.value ↔
      Json.Same before.value before'.value ∧ Json.Same change.value change'.value ∧
        Json.Same after.value after'.value ∧ Json.Same rollback.value rollback'.value := by
  apply payload_eq_iff
  · simp only [List.forall_mem_cons]
    exact ⟨before.distinct, change.distinct, after.distinct, rollback.distinct, List.forall_mem_nil _⟩
  · simp only [List.forall_mem_cons]
    exact ⟨before'.distinct, change'.distinct, after'.distinct, rollback'.distinct,
      List.forall_mem_nil _⟩

end DongleRescue.Repair
