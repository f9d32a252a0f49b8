import Mathlib.Data.Option.Basic

namespace DongleRescue.Data

/-! Partial knowledge of the values of fields.  A query asks for some of them; what
is known entails it when every value asked for is known to be that one. -/

abbrev Facts (ι α : Type*) := ι → Option α

namespace Facts

variable {ι α : Type*} {known more asked : Facts ι α}

def Entails (known asked : Facts ι α) : Prop :=
  ∀ i value, asked i = some value → known i = some value

def extend (known more : Facts ι α) : Facts ι α := fun i => (known i).or (more i)

theorem Entails.extend (entails : Entails known asked) (more : Facts ι α) :
    Entails (known.extend more) asked := by
  intro i value asks
  rw [Facts.extend, entails i value asks, Option.some_or]

theorem Entails.free (entails : Entails known asked) {i : ι} (unknown : known i = none) :
    asked i = none := by
  cases asks : asked i with
  | none => rfl
  | some value =>
      rw [entails i value asks] at unknown
      cases unknown

/-- A query that asks for nothing that was unknown needs no extension. -/
theorem Entails.of_extend (entails : Entails (known.extend more) asked)
    (free : ∀ i, known i = none → asked i = none) : Entails known asked := by
  intro i value asks
  have extended := entails i value asks
  cases before : known i with
  | none =>
      rw [free i before] at asks
      cases asks
  | some other =>
      rw [Facts.extend, before, Option.some_or] at extended
      exact extended

/-- What two extensions entail that nowhere agree was entailed before. -/
theorem entails_of_apart {first second : Facts ι α} (one : Entails (known.extend first) asked)
    (two : Entails (known.extend second) asked)
    (apart : ∀ i, known i = none → first i ≠ second i) : Entails known asked := by
  apply one.of_extend
  intro i unknown
  cases asks : asked i with
  | none => rfl
  | some value =>
      have firstKnows := one i value asks
      have secondKnows := two i value asks
      rw [Facts.extend, unknown, Option.none_or] at firstKnows secondKnows
      exact absurd (firstKnows.trans secondKnows.symm) (apart i unknown)

end Facts

end DongleRescue.Data
