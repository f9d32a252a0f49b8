import DongleRescue.Linux.ModulesAlias

namespace DongleRescue.Linux

open DongleRescue.Data

/-! The lines that are alias rows: `alias <pattern> <module>`, with white space between
the words and around them. -/

def IsWord (text : Str) : Prop := text ≠ [] ∧ ∀ c ∈ text, isSpace c = false

instance (text : Str) : Decidable (IsWord text) := inferInstanceAs (Decidable (_ ∧ _))

/-- What stands around and between the words of a row. -/
structure Spacing where
  before : Str
  first : Str
  second : Str
  after : Str
  trailing : Str
  beforePadding : ∀ c ∈ before, isRowPadding c = true
  firstSpace : first ≠ [] ∧ ∀ c ∈ first, isRowSpace c = true
  secondSpace : second ≠ [] ∧ ∀ c ∈ second, isRowSpace c = true
  afterSpace : ∀ c ∈ after, isRowSpace c = true
  trailingPadding : ∀ c ∈ trailing, isRowPadding c = true

namespace Spacing

def core (spacing : Spacing) (pattern module : Str) : Str :=
  "alias" ++ (spacing.first ++ (pattern ++ (spacing.second ++ module)))

def row (spacing : Spacing) (pattern module : Str) : Str :=
  spacing.before ++ (spacing.core pattern module ++ (spacing.after ++ spacing.trailing))

def plain : Spacing where
  before := []
  first := [' ']
  second := [' ']
  after := []
  trailing := ['\n']
  beforePadding := by decide
  firstSpace := by decide
  secondSpace := by decide
  afterSpace := by decide
  trailingPadding := by decide

def singleSpaced : Spacing where
  before := []
  first := [' ']
  second := [' ']
  after := []
  trailing := []
  beforePadding := by decide
  firstSpace := by decide
  secondSpace := by decide
  afterSpace := by decide
  trailingPadding := by decide

end Spacing

section Classes

variable {c : Char} {text : Str}

theorem isSpace_of_padding (padding : isRowPadding c = true) : isSpace c = true := by
  simp only [isRowPadding, Bool.or_eq_true, decide_eq_true_eq] at padding
  rcases padding with ((same | same) | same) | same
  all_goals
    rw [same]
    decide

theorem isSpace_of_rowSpace (space : isRowSpace c = true) : isSpace c = true := by
  rw [isRowSpace, Bool.and_eq_true] at space
  exact space.1

/-- White space ends where a word starts. -/
theorem IsWord.stops (word : IsWord text) (rest : Str) :
    ∀ c ∈ (text ++ rest).head?, isRowSpace c = false := by
  obtain ⟨d, tail, split⟩ := List.exists_cons_of_ne_nil word.1
  have visible : isSpace d = false := word.2 d (by simp [split])
  rw [split]
  intro c first
  cases first
  simp [isRowSpace, visible]

/-- A word ends where white space starts. -/
theorem stops_of_space (spaces : ∀ c ∈ text, isSpace c = true) :
    ∀ c ∈ text.head?, (!isSpace c) = false := by
  intro c first
  simp [spaces c (List.mem_of_mem_head? first)]

end Classes

/-- The line spells the row of a USB pattern and a module. -/
def IsRow (raw pattern module : Str) : Prop :=
  startsWith pattern "usb:" = true ∧ IsWord pattern ∧ IsWord module ∧
    ∃ spacing : Spacing, raw = spacing.row pattern module

section Reading

variable {text pattern module first second after tail : Str}

theorem matchRow_row (patternWord : IsWord pattern) (moduleWord : IsWord module)
    (firstSpace : first ≠ [] ∧ ∀ c ∈ first, isRowSpace c = true)
    (secondSpace : second ≠ [] ∧ ∀ c ∈ second, isRowSpace c = true)
    (afterSpace : ∀ c ∈ after, isRowSpace c = true) (ending : tail = [] ∨ tail = ['\n']) :
    matchRow ("alias" ++ (first ++ (pattern ++ (second ++ (module ++ (after ++ tail)))))) =
      some (pattern, module) := by
  have dropped : ("alias".toList ++ (first ++ (pattern ++ (second ++ (module ++ (after ++ tail)))))).drop 5 =
      first ++ (pattern ++ (second ++ (module ++ (after ++ tail)))) := rfl
  have gap : (first ++ (pattern ++ (second ++ (module ++ (after ++ tail))))).span isRowSpace =
      (first, pattern ++ (second ++ (module ++ (after ++ tail)))) :=
    span_exact firstSpace.2 (patternWord.stops _)
  have patternRead : (pattern ++ (second ++ (module ++ (after ++ tail)))).span (!isSpace ·) =
      (pattern, second ++ (module ++ (after ++ tail))) := by
    apply span_exact (by simpa using patternWord.2)
    rw [List.head?_append_of_ne_nil _ secondSpace.1]
    exact stops_of_space fun c member => isSpace_of_rowSpace (secondSpace.2 c member)
  have secondGap : (second ++ (module ++ (after ++ tail))).span isRowSpace =
      (second, module ++ (after ++ tail)) := span_exact secondSpace.2 (moduleWord.stops _)
  have spaces : ∀ c ∈ after ++ tail, isSpace c = true := by
    intro c member
    rcases List.mem_append.mp member with inAfter | inTail
    · exact isSpace_of_rowSpace (afterSpace c inAfter)
    · rcases ending with none | newline
      · simp [none] at inTail
      · rw [newline, List.mem_singleton] at inTail
        rw [inTail]
        decide
  have moduleRead : (module ++ (after ++ tail)).span (!isSpace ·) = (module, after ++ tail) :=
    span_exact (by simpa using moduleWord.2) (stops_of_space spaces)
  have rest : (after ++ tail).dropWhile isRowSpace = tail := by
    rw [List.dropWhile_append_of_pos afterSpace]
    rcases ending with none | newline
    · rw [none]
      rfl
    · rw [newline]
      decide
  rw [matchRow]
  rw [startsWith_append]
  simp only [dropped, gap, patternRead, secondGap, moduleRead, rest]
  simp [firstSpace.1, patternWord.1, secondSpace.1, moduleWord.1, ending]

/-- The greedy reading loses nothing: what is read is exactly what such a text spells. -/
theorem matchRow_eq_some_iff : matchRow text = some (pattern, module) ↔
    IsWord pattern ∧ IsWord module ∧ ∃ first second after tail : Str,
      (first ≠ [] ∧ ∀ c ∈ first, isRowSpace c = true) ∧
      (second ≠ [] ∧ ∀ c ∈ second, isRowSpace c = true) ∧
      (∀ c ∈ after, isRowSpace c = true) ∧ (tail = [] ∨ tail = ['\n']) ∧
      text = "alias" ++ (first ++ (pattern ++ (second ++ (module ++ (after ++ tail))))) := by
  constructor
  · intro matched
    by_cases start : startsWith text "alias" = true
    · obtain ⟨rest, split⟩ := startsWith_iff.mp start
      have dropped : text.drop 5 = rest := by
        rw [split]
        rfl
      rw [matchRow] at matched
      rw [start, dropped] at matched
      rcases gap : rest.span isRowSpace with ⟨first, afterFirst⟩
      rcases patternRead : afterFirst.span (!isSpace ·) with ⟨word, afterWord⟩
      rcases secondGap : afterWord.span isRowSpace with ⟨second, afterSecond⟩
      rcases moduleRead : afterSecond.span (!isSpace ·) with ⟨name, afterName⟩
      obtain ⟨restSplit, firstSpace, _⟩ := span_eq_iff.mp gap
      obtain ⟨wordSplit, wordVisible, _⟩ := span_eq_iff.mp patternRead
      obtain ⟨secondSplit, secondSpace, _⟩ := span_eq_iff.mp secondGap
      obtain ⟨nameSplit, nameVisible, _⟩ := span_eq_iff.mp moduleRead
      simp only [gap, patternRead, secondGap, moduleRead, Bool.not_true, Bool.false_eq_true,
        if_false] at matched
      split at matched
      · cases matched
      · rename_i nonempty
        simp only [not_or] at nonempty
        split at matched
        · rename_i ending
          cases matched
          refine ⟨⟨nonempty.2.1, by simpa using wordVisible⟩, ⟨nonempty.2.2.2, by simpa using nameVisible⟩,
            first, second, afterName.takeWhile isRowSpace, afterName.dropWhile isRowSpace,
            ⟨nonempty.1, firstSpace⟩, ⟨nonempty.2.2.1, secondSpace⟩,
            fun c member => List.mem_takeWhile_imp member, ending, ?_⟩
          rw [List.takeWhile_append_dropWhile, ← nameSplit, ← secondSplit, ← wordSplit, ← restSplit,
            split]
        · cases matched
    · rw [matchRow, if_pos (by simpa using start)] at matched
      cases matched
  · intro ⟨patternWord, moduleWord, first, second, after, tail, firstSpace, secondSpace, afterSpace,
      ending, split⟩
    rw [split]
    exact matchRow_row patternWord moduleWord firstSpace secondSpace afterSpace ending

theorem Spacing.stripWhile_row (spacing : Spacing) (moduleWord : IsWord module) :
    stripWhile isRowPadding (spacing.row pattern module) =
      spacing.core pattern module ++ spacing.after.rdropWhile isRowPadding := by
  have trailing : (spacing.after ++ spacing.trailing).rdropWhile isRowPadding =
      spacing.after.rdropWhile isRowPadding :=
    rdropWhile_append_of_pos spacing.trailingPadding
  have last : ∀ c ∈ (spacing.core pattern module).getLast?, isRowPadding c = false := by
    have split : spacing.core pattern module =
        ("alias" ++ (spacing.first ++ (pattern ++ spacing.second))) ++ module := by
      simp [Spacing.core]
    intro c found
    rw [split, List.getLast?_append_of_ne_nil _ moduleWord.1] at found
    have visible := moduleWord.2 c (List.mem_of_mem_getLast? found)
    rw [Bool.eq_false_iff]
    intro padding
    rw [isSpace_of_padding padding] at visible
    cases visible
  have first : ∀ c ∈ (spacing.core pattern module).head?, isRowPadding c = false := by
    intro c found
    cases found
    decide
  have nonempty : spacing.core pattern module ≠ [] := List.cons_ne_nil _ _
  rw [Spacing.row, stripWhile_around nonempty first last spacing.beforePadding, trailing]

/-- The lines that are read as a row are the spellings of the row. -/
theorem parseAliasLine_eq_some_iff {raw : Str} {row : AliasLine} :
    parseAliasLine raw = some row ↔ row.raw = raw ∧ IsRow raw row.pattern row.module := by
  constructor
  · intro parsed
    rw [parseAliasLine] at parsed
    rcases matched : matchRow (stripWhile isRowPadding raw) with _ | ⟨pattern, module⟩
    · rw [matched] at parsed
      cases parsed
    · rw [matched] at parsed
      by_cases usb : startsWith pattern "usb:" = true
      · simp only [usb, if_true, Option.some.injEq] at parsed
        subst parsed
        obtain ⟨patternWord, moduleWord, first, second, after, tail, firstSpace, secondSpace,
          afterSpace, ending, stripped⟩ := matchRow_eq_some_iff.mp matched
        obtain ⟨before, trailing, whole, beforePadding, trailingPadding⟩ :=
          exists_eq_stripWhile isRowPadding raw
        refine ⟨rfl, usb, patternWord, moduleWord, ⟨before, first, second, after, tail ++ trailing,
          beforePadding, firstSpace, secondSpace, afterSpace, ?_⟩, ?_⟩
        · intro c member
          rcases List.mem_append.mp member with inTail | inTrailing
          · rcases ending with none | newline
            · simp [none] at inTail
            · rw [newline, List.mem_singleton] at inTail
              rw [inTail]
              decide
          · exact trailingPadding c inTrailing
        · simp only [Spacing.row, Spacing.core]
          rw [whole, stripped]
          simp
      · simp only [usb] at parsed
        cases parsed
  · intro ⟨same, usb, patternWord, moduleWord, spacing, spelled⟩
    have afterSpace : ∀ c ∈ spacing.after.rdropWhile isRowPadding, isRowSpace c = true :=
      fun c member => spacing.afterSpace c ((List.rdropWhile_prefix isRowPadding _).subset member)
    have matched : matchRow (stripWhile isRowPadding raw) = some (row.pattern, row.module) := by
      have read := matchRow_row patternWord moduleWord spacing.firstSpace spacing.secondSpace
        afterSpace (.inl rfl)
      rw [spelled, spacing.stripWhile_row moduleWord]
      simpa [Spacing.core] using read
    rw [parseAliasLine]
    rw [matched]
    simp only [usb, if_true, ← same]

theorem Spacing.parse_row (spacing : Spacing) (usb : startsWith pattern "usb:" = true)
    (patternWord : IsWord pattern) (moduleWord : IsWord module) :
    parseAliasLine (spacing.row pattern module) = some ⟨pattern, module, spacing.row pattern module⟩ :=
  parseAliasLine_eq_some_iff.mpr ⟨rfl, usb, patternWord, moduleWord, spacing, rfl⟩

end Reading

end DongleRescue.Linux
