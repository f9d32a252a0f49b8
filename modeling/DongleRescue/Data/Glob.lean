import Mathlib.Computability.Language
import Mathlib.Data.List.Infix
import Mathlib.Data.List.ReduceOption

namespace DongleRescue.Data

/-! Glob patterns over an alphabet: letters, which stand for themselves, and
wildcards, which stand for the texts of a language. -/

abbrev Glob (α : Type*) := List (Option α)

namespace Glob

variable {α : Type*} {wild : Language α} {a : α} {pattern first second : Glob α} {text : List α}

def symbol (wild : Language α) : Option α → Language α
  | none => wild
  | some a => {[a]}

/-- The texts a pattern stands for. -/
def language (wild : Language α) (pattern : Glob α) : Language α :=
  (pattern.map (symbol wild)).prod

theorem mem_language_nil : text ∈ language wild [] ↔ text = [] := Language.mem_one text

theorem mem_language_wildcard : text ∈ language wild (none :: pattern) ↔
    ∃ front ∈ wild, ∃ rest ∈ language wild pattern, front ++ rest = text := by
  rw [language, List.map_cons, List.prod_cons]
  exact Language.mem_mul

theorem mem_language_letter : text ∈ language wild (some a :: pattern) ↔
    ∃ rest ∈ language wild pattern, a :: rest = text := by
  rw [language, List.map_cons, List.prod_cons]
  refine Language.mem_mul.trans ?_
  constructor
  · intro ⟨front, single, rest, member, split⟩
    cases (single : front = [a])
    exact ⟨rest, member, split⟩
  · intro ⟨rest, member, split⟩
    exact ⟨[a], rfl, rest, member, split⟩

section Accepts

variable [DecidableEq α]

def accepts : Glob α → List α → Bool
  | [], text => text.isEmpty
  | none :: pattern, text => text.tails.any (accepts pattern)
  | some a :: pattern, text =>
      match text with
      | [] => false
      | b :: rest => decide (a = b) && accepts pattern rest

theorem accepts_iff : accepts pattern text = true ↔ text ∈ language ⊤ pattern := by
  induction pattern generalizing text with
  | nil => rw [accepts, List.isEmpty_iff, mem_language_nil]
  | cons symbol pattern ih =>
      cases symbol with
      | none =>
          rw [accepts, List.any_eq_true, mem_language_wildcard]
          constructor
          · intro ⟨rest, member, accepted⟩
            obtain ⟨front, split⟩ := (List.mem_tails rest text).mp member
            exact ⟨front, trivial, rest, ih.mp accepted, split⟩
          · intro ⟨front, _, rest, member, split⟩
            exact ⟨rest, (List.mem_tails rest text).mpr ⟨front, split⟩, ih.mpr member⟩
      | some a =>
          rw [mem_language_letter]
          cases text with
          | nil =>
              constructor
              · intro accepted
                cases accepted
              · intro ⟨rest, _, split⟩
                cases split
          | cons b text =>
              rw [accepts, Bool.and_eq_true, decide_eq_true_eq, ih]
              constructor
              · intro ⟨same, member⟩
                exact ⟨text, member, by rw [same]⟩
              · intro ⟨rest, member, split⟩
                cases split
                exact ⟨rfl, member⟩

end Accepts

theorem mem_language_letters (word : List α) : word ∈ language wild (word.map some) := by
  induction word with
  | nil => exact mem_language_nil.mpr rfl
  | cons a word ih => exact mem_language_letter.mpr ⟨word, ih, rfl⟩

/-- A word in front of a pattern takes just itself off the text. -/
theorem mem_language_word {word : List α} : text ∈ language wild (word.map some ++ pattern) ↔
    ∃ rest ∈ language wild pattern, word ++ rest = text := by
  induction word generalizing text with
  | nil => simp
  | cons a word ih =>
      rw [List.map_cons, List.cons_append, mem_language_letter]
      constructor
      · intro ⟨rest, member, split⟩
        obtain ⟨more, kept, inner⟩ := ih.mp member
        exact ⟨more, kept, by rw [List.cons_append, inner, split]⟩
      · intro ⟨rest, member, split⟩
        exact ⟨word ++ rest, ih.mpr ⟨rest, member, rfl⟩, split⟩

theorem letters_sublist (member : text ∈ language wild pattern) : pattern.reduceOption.Sublist text := by
  induction pattern generalizing text with
  | nil => exact List.nil_sublist text
  | cons symbol pattern ih =>
      cases symbol with
      | none =>
          obtain ⟨front, _, rest, later, split⟩ := mem_language_wildcard.mp member
          rw [List.reduceOption_cons_of_none, ← split]
          exact (ih later).trans (List.sublist_append_right front rest)
      | some a =>
          obtain ⟨rest, later, split⟩ := mem_language_letter.mp member
          rw [List.reduceOption_cons_of_some, ← split]
          exact (ih later).cons_cons a

/-- Letters use up marked characters one for one; a text with no more of them than
the pattern leaves none to its wildcards. -/
theorem mem_language_unmarked {marked : α → Bool} (member : text ∈ language wild pattern)
    (few : text.countP marked ≤ pattern.reduceOption.countP marked) :
    text ∈ language {front | ∀ b ∈ front, marked b = false} pattern := by
  induction pattern generalizing text with
  | nil => exact mem_language_nil.mpr (mem_language_nil.mp member)
  | cons symbol pattern ih =>
      cases symbol with
      | none =>
          obtain ⟨front, _, rest, later, split⟩ := mem_language_wildcard.mp member
          have least := (letters_sublist later).countP_le (p := marked)
          rw [← split, List.reduceOption_cons_of_none, List.countP_append] at few
          have none : front.countP marked = 0 := by omega
          refine mem_language_wildcard.mpr ⟨front, ?_, rest, ih later (by omega), split⟩
          intro b inFront
          simpa using List.countP_eq_zero.mp none b inFront
      | some a =>
          obtain ⟨rest, later, split⟩ := mem_language_letter.mp member
          rw [← split, List.reduceOption_cons_of_some, List.countP_cons, List.countP_cons] at few
          exact mem_language_letter.mpr ⟨rest, ih later (by omega), split⟩

end Glob

end DongleRescue.Data
