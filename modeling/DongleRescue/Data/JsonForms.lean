import DongleRescue.Data.JsonOrder

namespace DongleRescue.Data.Json

/-! Data written as JSON values, and when no two data have the same form. -/

section Forms

variable {α : Type} {form : α → Json} {items others : List (Str × Json)}

/-- What was written can be told from its form, in whatever order the keys are. -/
def Faithful (form : α → Json) : Prop := ∀ ⦃left right⦄, Same (form left) (form right) → left = right

theorem faithful_str : Faithful str := fun _ _ same => same

theorem faithful_bool : Faithful bool := fun _ _ same => same

theorem Faithful.option (faithful : Faithful form) (never : ∀ datum, form datum ≠ null) :
    Faithful fun datum : Option α => (datum.map form).getD null := by
  intro left right same
  cases left with
  | none =>
      cases right with
      | none => rfl
      | some right =>
          simp only [Option.map_none, Option.getD_none, Option.map_some, Option.getD_some] at same
          cases written : form right with
          | null => exact absurd written (never right)
          | _ =>
              rw [written] at same
              exact same.elim
  | some left =>
      cases right with
      | none =>
          simp only [Option.map_none, Option.getD_none, Option.map_some, Option.getD_some] at same
          cases written : form left with
          | null => exact absurd written (never left)
          | _ =>
              rw [written] at same
              exact same.elim
      | some right => rw [faithful same]

theorem Faithful.list (faithful : Faithful form) : Faithful fun data : List α => list (data.map form) := by
  intro lefts rights same
  have each : SameList (lefts.map form) (rights.map form) := same
  clear same
  induction lefts generalizing rights with
  | nil =>
      cases rights with
      | nil => rfl
      | cons right rights => exact each.elim
  | cons left lefts ih =>
      cases rights with
      | nil => exact each.elim
      | cons right rights => rw [faithful each.1, ih each.2]

/-- Dicts that list the same keys in one order are the same only when their values are. -/
theorem SameItems.forall₂ {keys : List Str} (distinct : keys.Nodup) (first : items.map Prod.fst = keys)
    (second : others.map Prod.fst = keys) (same : SameItems items others) :
    List.Forall₂ (fun item other => Same item.2 other.2) items others := by
  induction items generalizing others keys with
  | nil =>
      rw [same]
      exact .nil
  | cons item items ih =>
      obtain ⟨key, value⟩ := item
      obtain ⟨before, other, after, split, here, later⟩ := same
      subst first
      rw [List.map_cons, List.nodup_cons] at distinct
      cases before with
      | nil =>
          subst split
          rw [List.nil_append, List.map_cons, List.map_cons, List.cons.injEq] at second
          exact .cons here (ih distinct.2 rfl second.2 later)
      | cons next before =>
          subst split
          rw [List.cons_append, List.map_cons, List.map_cons, List.cons.injEq] at second
          refine absurd ?_ distinct.1
          rw [← second.2, List.map_append, List.map_cons]
          simp

end Forms

end DongleRescue.Data.Json
