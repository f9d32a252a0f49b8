import DongleRescue.Data.Text

namespace DongleRescue.Data

/-! The words of a text: the parts between its separators that hold something. -/

section Words

variable {α : Type*} {separates : α → Bool} {c : α} {text word before trailing : List α}
  {parts : List (List α)}

def words (separates : α → Bool) (text : List α) : List (List α) :=
  (text.splitOnP separates).filter (!·.isEmpty)

def IsWordOf (separates : α → Bool) (word : List α) : Prop :=
  word ≠ [] ∧ ∀ c ∈ word, separates c = false

theorem words_append_cons (separator : separates c = true) (first second : List α) :
    words separates (first ++ c :: second) = words separates first ++ words separates second := by
  rw [words, List.splitOnP_append_cons first second separator, List.filter_append]
  rfl

theorem words_cons (separator : separates c = true) (text : List α) :
    words separates (c :: text) = words separates text :=
  words_append_cons separator [] text

theorem words_of_isWordOf (isWord : IsWordOf separates word) : words separates word = [word] := by
  rw [words, List.splitOnP_eq_singleton isWord.2]
  simp [isWord.1]

/-- Splitting takes the separators out. -/
theorem separates_eq_false_of_mem_splitOnP (member : word ∈ text.splitOnP separates) :
    ∀ c ∈ word, separates c = false := by
  induction text generalizing word with
  | nil =>
      rw [List.splitOnP_nil, List.mem_singleton] at member
      simp [member]
  | cons d text ih =>
      rw [List.splitOnP_cons_eq_if_modifyHead] at member
      cases separator : separates d with
      | true =>
          rw [if_pos separator, List.mem_cons] at member
          rcases member with empty | later
          · simp [empty]
          · exact ih later
      | false =>
          obtain ⟨head, tail, split⟩ := List.exists_cons_of_ne_nil (List.splitOnP_ne_nil separates text)
          rw [split] at ih
          rw [if_neg (by simp [separator]), split, List.modifyHead_cons, List.mem_cons] at member
          rcases member with grown | later
          · rw [grown]
            exact List.forall_mem_cons.mpr ⟨separator, ih (by simp)⟩
          · exact ih (by simp [later])

theorem subset_of_mem_splitOnP (member : word ∈ text.splitOnP separates) : ∀ c ∈ word, c ∈ text := by
  induction text generalizing word with
  | nil =>
      rw [List.splitOnP_nil, List.mem_singleton] at member
      simp [member]
  | cons d text ih =>
      have later : ∀ part ∈ text.splitOnP separates, ∀ c ∈ part, c ∈ d :: text :=
        fun part inside c found => List.mem_cons_of_mem d (ih inside c found)
      rw [List.splitOnP_cons_eq_if_modifyHead] at member
      split at member
      · rcases List.mem_cons.mp member with empty | inside
        · simp [empty]
        · exact later word inside
      · obtain ⟨head, tail, split⟩ := List.exists_cons_of_ne_nil (List.splitOnP_ne_nil separates text)
        rw [split, List.modifyHead_cons, List.mem_cons] at member
        rcases member with grown | inside
        · rw [grown]
          exact List.forall_mem_cons.mpr ⟨List.mem_cons_self, later head (by simp [split])⟩
        · exact later word (by simp [split, inside])

theorem isWordOf_of_mem_words (member : word ∈ words separates text) : IsWordOf separates word := by
  obtain ⟨inSplit, nonempty⟩ := List.mem_filter.mp member
  exact ⟨by simpa using nonempty, separates_eq_false_of_mem_splitOnP inSplit⟩

theorem words_append_left (spaces : ∀ c ∈ before, separates c = true) :
    words separates (before ++ text) = words separates text := by
  induction before with
  | nil => rfl
  | cons c before ih =>
      rw [List.forall_mem_cons] at spaces
      rw [List.cons_append, words_cons spaces.1, ih spaces.2]

theorem words_append_right (spaces : ∀ c ∈ trailing, separates c = true) :
    words separates (text ++ trailing) = words separates text := by
  cases trailing with
  | nil => rw [List.append_nil]
  | cons c trailing =>
      rw [List.forall_mem_cons] at spaces
      have none : words separates (trailing ++ []) = words separates [] := words_append_left spaces.2
      rw [List.append_nil] at none
      rw [words_append_cons spaces.1, none]
      exact List.append_nil _

/-- Words that are set apart by single separators are found again. -/
theorem words_intercalate (separator : separates c = true) (whole : ∀ part ∈ parts, IsWordOf separates part) :
    words separates (List.intercalate [c] parts) = parts := by
  induction parts with
  | nil => rfl
  | cons part parts ih =>
      rw [List.forall_mem_cons] at whole
      cases parts with
      | nil =>
          rw [List.intercalate_singleton]
          exact words_of_isWordOf whole.1
      | cons next parts =>
          rw [List.intercalate_cons_cons, List.append_assoc, List.singleton_append, words_append_cons separator,
            words_of_isWordOf whole.1, ih whole.2]
          rfl

end Words

theorem words_stripWhile (drop : Char → Bool) (text : Str) : words drop (stripWhile drop text) = words drop text := by
  obtain ⟨before, trailing, split, beforeDropped, trailingDropped⟩ := exists_eq_stripWhile drop text
  calc
    words drop (stripWhile drop text) = words drop (stripWhile drop text ++ trailing) :=
      (words_append_right trailingDropped).symm
    _ = words drop (before ++ (stripWhile drop text ++ trailing)) := (words_append_left beforeDropped).symm
    _ = words drop text := by rw [← split]

end DongleRescue.Data
