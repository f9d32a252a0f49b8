import DongleRescue.Data.Text

namespace DongleRescue.Windows

open DongleRescue.Data

/-! The arguments of a command line, by the documented rules of `CommandLineToArgvW`.  A backslash
is a character like any other until a quote follows: an even number of them stands for half as
many and leaves the quote its meaning, an odd number takes it away. -/

/-- The argument being read; its last backslashes wait for what follows them. -/
structure Argument where
  text : Str
  quoted : Bool
  slashes : Nat

def backslashes (count : Nat) : Str := List.replicate count '\\'

def isSeparator (c : Char) : Bool := c = ' ' || c = '\t'

def Argument.empty : Argument := ⟨[], false, 0⟩

def Argument.value (argument : Argument) : Str := argument.text ++ backslashes argument.slashes

def Argument.read (argument : Argument) (c : Char) : Argument :=
  if c = '\\' then { argument with slashes := argument.slashes + 1 }
  else if c = '"' then
    let text := argument.text ++ backslashes (argument.slashes / 2)
    if argument.slashes % 2 = 0 then ⟨text, !argument.quoted, 0⟩ else ⟨text ++ ['"'], argument.quoted, 0⟩
  else ⟨argument.value ++ [c], argument.quoted, 0⟩

/-- The end of the line closes an open quotation. -/
def argumentsFrom : Option Argument → Str → List Str
  | pending, [] => (pending.map Argument.value).toList
  | pending, c :: rest =>
      let argument := pending.getD .empty
      if isSeparator c && !argument.quoted then
        (pending.map Argument.value).toList ++ argumentsFrom none rest
      else argumentsFrom (some (argument.read c)) rest

/-- The name of the program ends at the next quote if it starts with one, else at the first
separator, and backslashes do not count in it.  The line is not empty; an empty one would stand
for the running program. -/
def commandLineToArgv : Str → List Str
  | '"' :: line => line.takeWhile (· != '"') :: argumentsFrom none ((line.dropWhile (· != '"')).drop 1)
  | line => line.takeWhile (!isSeparator ·) :: argumentsFrom none (line.dropWhile (!isSeparator ·))

section Arguments

variable {argument : Argument} {c : Char} {run body text rest : Str} {count : Nat}

theorem Argument.value_read (noQuote : c ≠ '"') : (argument.read c).value = argument.value ++ [c] := by
  by_cases slash : c = '\\'
  · subst slash
    simp [Argument.read, Argument.value, backslashes, List.replicate_succ']
  · simp [Argument.read, Argument.value, backslashes, slash, noQuote]

theorem Argument.quoted_read (noQuote : c ≠ '"') : (argument.read c).quoted = argument.quoted := by
  by_cases slash : c = '\\'
  · simp [Argument.read, slash]
  · simp [Argument.read, slash, noQuote]

theorem Argument.slashes_read (noQuote : c ≠ '"') (noSlash : c ≠ '\\') : (argument.read c).slashes = 0 := by
  simp [Argument.read, noSlash, noQuote]

theorem Argument.read_run (noQuote : '"' ∉ run) :
    (run.foldl Argument.read argument).value = argument.value ++ run ∧
      (run.foldl Argument.read argument).quoted = argument.quoted := by
  induction run generalizing argument with
  | nil => exact ⟨(List.append_nil _).symm, rfl⟩
  | cons c run ih =>
      have plain : c ≠ '"' := fun same => noQuote (by simp [same])
      obtain ⟨value, quoted⟩ := @ih (argument.read c) fun member => noQuote (by simp [member])
      rw [List.foldl_cons, value, quoted, Argument.value_read plain, Argument.quoted_read plain,
        List.append_assoc, List.singleton_append]
      exact ⟨rfl, rfl⟩

theorem Argument.read_backslashes (count : Nat) : (backslashes count).foldl Argument.read argument =
    { argument with slashes := argument.slashes + count } := by
  induction count generalizing argument with
  | zero => rfl
  | succ count ih =>
      have next : argument.read '\\' = { argument with slashes := argument.slashes + 1 } := if_pos rfl
      rw [backslashes, List.replicate_succ, List.foldl_cons, ← backslashes, ih, next, Nat.add_assoc,
        Nat.add_comm 1]

/-- Only the backslashes at the end of a text are still open after it. -/
theorem Argument.read_text {quoted : Bool} (noQuote : '"' ∉ body) (last : body.getLast? ≠ some '\\') :
    (body ++ backslashes count).foldl Argument.read ⟨text, quoted, 0⟩ = ⟨text ++ body, quoted, count⟩ := by
  have settled : (body.foldl Argument.read ⟨text, quoted, 0⟩).slashes = 0 := by
    cases body using List.reverseRecOn with
    | nil => rfl
    | append_singleton body c =>
        rw [List.foldl_append]
        refine Argument.slashes_read (fun same => noQuote (by simp [same])) fun slash => last ?_
        rw [List.getLast?_concat, slash]
  obtain ⟨value, quoted'⟩ := @Argument.read_run ⟨text, quoted, 0⟩ _ noQuote
  cases read : body.foldl Argument.read ⟨text, quoted, 0⟩ with
  | mk text' quotation slashes =>
      rw [read] at settled value quoted'
      dsimp only at settled quoted'
      subst settled quoted'
      rw [List.foldl_append, read, Argument.read_backslashes, Nat.zero_add]
      simpa [Argument.value, backslashes] using value

theorem exists_eq_append_backslashes (text : Str) :
    ∃ body count, text = body ++ backslashes count ∧ body.getLast? ≠ some '\\' := by
  induction text using List.reverseRecOn with
  | nil => exact ⟨[], 0, rfl, by simp⟩
  | append_singleton text c ih =>
      by_cases slash : c = '\\'
      · obtain ⟨body, count, split, last⟩ := ih
        refine ⟨body, count + 1, ?_, last⟩
        rw [split, slash, List.append_assoc, backslashes, backslashes, List.replicate_succ']
      · exact ⟨text ++ [c], 0, (List.append_nil _).symm, by simpa using slash⟩

theorem getLast?_append_backslashes (last : body.getLast? ≠ some '\\') :
    (body ++ backslashes count).getLast? ≠ some '\\' ↔ count = 0 := by
  cases count with
  | zero => simpa [backslashes] using last
  | succ count => simp [backslashes, List.replicate_succ', ← List.append_assoc]

end Arguments

section Lines

variable {argument : Argument} {word run body text rest : Str} {count : Nat}

theorem argumentsFrom_run (inside : argument.quoted = true ∨ ∀ c ∈ run, isSeparator c = false)
    (noQuote : '"' ∉ run) :
    argumentsFrom (some argument) (run ++ rest) = argumentsFrom (some (run.foldl Argument.read argument)) rest := by
  induction run generalizing argument with
  | nil => rfl
  | cons c run ih =>
      have kept : (isSeparator c && !argument.quoted) = false := by
        rcases inside with quoted | solid
        · simp [quoted]
        · simp [solid c (by simp)]
      have plain : c ≠ '"' := fun same => noQuote (by simp [same])
      rw [List.cons_append, argumentsFrom, Option.getD_some, kept, if_neg Bool.false_ne_true, List.foldl_cons]
      refine ih ?_ fun member => noQuote (by simp [member])
      rw [Argument.quoted_read plain]
      exact inside.imp_right fun solid d member => solid d (by simp [member])

theorem argumentsFrom_separator {pending : Option Argument} {c : Char} (separates : isSeparator c = true)
    (unquoted : (pending.getD .empty).quoted = false) :
    argumentsFrom pending (c :: rest) = (pending.map Argument.value).toList ++ argumentsFrom none rest := by
  rw [argumentsFrom]
  simp [separates, unquoted]

/-- A word without quotes is read as it stands. -/
theorem argumentsFrom_word {c : Char} (nonempty : word ≠ []) (solid : ∀ d ∈ word, isSeparator d = false)
    (noQuote : '"' ∉ word) (separates : isSeparator c = true) :
    argumentsFrom none (word ++ c :: rest) = word :: argumentsFrom none rest := by
  obtain ⟨first, word, rfl⟩ := List.exists_cons_of_ne_nil nonempty
  have opened : argumentsFrom none (first :: word ++ c :: rest) =
      argumentsFrom (some .empty) (first :: word ++ c :: rest) := by
    simp [argumentsFrom, solid first (by simp)]
  obtain ⟨value, quoted⟩ := @Argument.read_run .empty _ noQuote
  have unquoted : ((some ((first :: word).foldl Argument.read .empty)).getD .empty).quoted = false := quoted
  rw [opened, argumentsFrom_run (.inr solid) noQuote, argumentsFrom_separator separates unquoted, Option.map_some, value]
  rfl

theorem commandLineToArgv_word {c : Char} (solid : ∀ d ∈ word, isSeparator d = false)
    (unquoted : word.head? ≠ some '"') (separates : isSeparator c = true) :
    commandLineToArgv (word ++ c :: rest) = word :: argumentsFrom none rest := by
  have stops : ∀ d ∈ (c :: rest).head?, (!isSeparator d) = false := by
    intro d first
    rw [← Option.some.inj first, separates]
    rfl
  have other : ∀ line, word ++ c :: rest ≠ '"' :: line := by
    intro line same
    cases word with
    | nil =>
        cases same
        exact absurd separates (by decide)
    | cons first word => exact unquoted (congrArg List.head? same)
  have split : (word ++ c :: rest).span (!isSeparator ·) = _ := span_exact (by simpa using solid) stops
  rw [List.span_eq_takeWhile_dropWhile] at split
  obtain ⟨taken, dropped⟩ := Prod.mk.inj split
  rw [commandLineToArgv, taken, dropped]
  · exact congrArg (word :: ·) (argumentsFrom_separator separates rfl)
  · exact other

theorem argumentsFrom_quoted (noQuote : '"' ∉ body) (last : body.getLast? ≠ some '\\') :
    argumentsFrom none ('"' :: (body ++ backslashes count ++ '"' :: rest)) =
      argumentsFrom (some (if count % 2 = 0 then ⟨body ++ backslashes (count / 2), false, 0⟩
        else ⟨body ++ backslashes (count / 2) ++ ['"'], true, 0⟩)) rest := by
  have noQuotes : '"' ∉ body ++ backslashes count := by
    simp [noQuote, backslashes, List.mem_replicate]
  have opened : argumentsFrom none ('"' :: (body ++ backslashes count ++ '"' :: rest)) =
      argumentsFrom (some ⟨[], true, 0⟩) (body ++ backslashes count ++ '"' :: rest) := rfl
  rw [opened, argumentsFrom_run (.inl rfl) noQuotes, Argument.read_text noQuote last]
  rfl

example : commandLineToArgv "p a\\\\\\\\\"b c\" d e" = (["p", "a\\\\b c", "d", "e"] : List Str) := by decide

/-- A quoted text is one argument, itself, unless a backslash reaches the closing quote. -/
theorem argumentsFrom_quoted_eq_iff (noQuote : '"' ∉ text) :
    argumentsFrom none ('"' :: (text ++ ['"'])) = [text] ↔ text.getLast? ≠ some '\\' := by
  obtain ⟨body, count, rfl, last⟩ := exists_eq_append_backslashes text
  have plain : '"' ∉ body := fun member => noQuote (List.mem_append_left _ member)
  rw [argumentsFrom_quoted plain last, getLast?_append_backslashes last]
  split
  · rename_i even
    have value : argumentsFrom (some ⟨body ++ backslashes (count / 2), false, 0⟩) [] =
        [body ++ backslashes (count / 2)] := congrArg (fun text => [text]) (List.append_nil _)
    rw [value, List.singleton_inj, List.append_cancel_left_eq, backslashes, backslashes, List.replicate_left_inj]
    omega
  · rename_i odd
    have value : argumentsFrom (some ⟨body ++ backslashes (count / 2) ++ ['"'], true, 0⟩) [] =
        [body ++ (backslashes (count / 2) ++ ['"'])] := by
      rw [← List.append_assoc]
      exact congrArg (fun text => [text]) (List.append_nil _)
    rw [value, List.singleton_inj, List.append_cancel_left_eq]
    refine iff_of_false (fun same => ?_) fun none => odd (by rw [none])
    have member : '"' ∈ backslashes count := by simp [← same]
    exact absurd (List.eq_of_mem_replicate member) (by decide)

end Lines

end DongleRescue.Windows
