import DongleRescue.Data.JsonRoundTrip

namespace DongleRescue.Data.Json

/-! What the reader makes of a part of a document. -/

variable {config after : Config} {value other : Json} {stack : List Frame} {c : Char} {text first second : Str}

/-- Below the outermost bracket, or behind it. -/
def Inside (config : Config) : Prop := config.2 ≠ [] ∨ ∃ value, config.1 = .after value

theorem inside_start (started : start stack c = some config) (inside : stack ≠ []) : Inside config := by
  unfold start at started
  split_ifs at started
  all_goals
    cases started
    exact .inl (by simp [inside])

theorem inside_close (closed : close value stack c = some config) : Inside config := by
  unfold close at closed
  split at closed
  · cases closed
    exact .inr ⟨_, rfl⟩
  · split at closed
    · cases closed
    · split_ifs at closed
      · cases closed
        exact .inl (List.cons_ne_nil _ _)
      · cases closed
        exact .inr ⟨_, rfl⟩
    · split at closed
      · split_ifs at closed
        cases closed
        exact .inl (List.cons_ne_nil _ _)
      · cases closed
    · split_ifs at closed
      · cases closed
        exact .inl (List.cons_ne_nil _ _)
      · cases closed
        exact .inr ⟨_, rfl⟩

theorem inside_step (inside : Inside config) (next : step config c = some after) : Inside after := by
  obtain ⟨phase, stack⟩ := config
  cases phase with
  | after value => exact inside_close next
  | number negative digits =>
      have deep : stack ≠ [] := by simpa [Inside] using inside
      rw [step] at next
      split at next
      · cases next
        exact .inl deep
      · obtain ⟨value, _, closed⟩ := Option.bind_eq_some_iff.mp next
        exact inside_close closed
  | value =>
      have deep : stack ≠ [] := by simpa [Inside] using inside
      rw [step] at next
      split at next
      · cases next
        exact .inl deep
      · exact inside_start next deep
  | opened =>
      have deep : stack ≠ [] := by simpa [Inside] using inside
      unfold step at next
      simp only at next
      split at next
      · cases next
        exact .inl deep
      · split at next
        · split at next
          · cases next
            exact .inr ⟨_, rfl⟩
          · exact inside_start next deep
        · split at next
          · cases next
            exact .inr ⟨_, rfl⟩
          · exact inside_start next deep
        · cases next
  | text read high =>
      have deep : stack ≠ [] := by simpa [Inside] using inside
      rw [step] at next
      split_ifs at next
      all_goals
        cases next
        exact .inl deep
  | escape read high =>
      have deep : stack ≠ [] := by simpa [Inside] using inside
      rw [step] at next
      split_ifs at next
      · cases next
        exact .inl deep
      · obtain ⟨meant, _, same⟩ := Option.map_eq_some_iff.mp next
        cases same
        exact .inl deep
  | unicode read high left code =>
      have deep : stack ≠ [] := by simpa [Inside] using inside
      rw [step] at next
      split_ifs at next
      · obtain ⟨phase, _, same⟩ := Option.map_eq_some_iff.mp next
        cases same
        exact .inl deep
      · cases next
        exact .inl deep
  | word rest value =>
      have deep : stack ≠ [] := by simpa [Inside] using inside
      unfold step at next
      simp only at next
      split at next
      · cases next
      · split at next
        · cases next
          exact .inl deep
        · cases next

theorem inside_run (inside : Inside config) (read : run config text = some after) : Inside after := by
  induction text generalizing config with
  | nil =>
      cases read
      exact inside
  | cons c text ih =>
      rw [run_cons] at read
      obtain ⟨next, stepped, read⟩ := Option.bind_eq_some_iff.mp read
      exact ih (inside_step inside stepped) read

/-- Behind a document only white space is read. -/
theorem blank_of_run_after (read : run (.after value, []) text = some after) :
    ∀ c ∈ text, isBlank c = true := by
  induction text generalizing value with
  | nil => exact List.forall_mem_nil _
  | cons c text ih =>
      rw [run_cons] at read
      obtain ⟨next, stepped, read⟩ := Option.bind_eq_some_iff.mp read
      change close value [] c = some next at stepped
      rw [close] at stepped
      split at stepped
      · rename_i blank
        cases stepped
        exact List.forall_mem_cons.mpr ⟨blank, ih read⟩
      · cases stepped

/-- Behind a dict that is a document only white space makes another one. -/
theorem blank_of_readDocument_append (bracket : first.head? = some '\x7b')
    (read : readDocument first = some value) (whole : readDocument (first ++ second) = some other) :
    ∀ c ∈ second, isBlank c = true := by
  obtain ⟨rest, split⟩ := List.head?_eq_some_iff.mp bracket
  have opened : Json.step (.value, []) '\x7b' = some (.opened, [.key []]) := rfl
  rw [readDocument, Option.bind_eq_some_iff] at read whole
  obtain ⟨config, read, finished⟩ := read
  obtain ⟨last, whole, _⟩ := whole
  rw [run_append, read, Option.bind_some] at whole
  rw [split, run_cons, opened, Option.bind_some] at read
  have inside := inside_run (.inl (List.cons_ne_nil _ _)) read
  rcases ready_of_finish finished with same | ⟨negative, digits, same, _⟩
  · rw [same] at whole
    exact blank_of_run_after whole
  · rw [same] at inside
    simp [Inside] at inside

end DongleRescue.Data.Json
