import DongleRescue.Data.Text

namespace DongleRescue.Posix

open DongleRescue.Data

/-! Token recognition of the shell command language, one character at a time.
A word that would undergo an expansion (parameter, command, tilde, pathname) is
not evaluated; it is reported as a token of its own. -/

inductive Token where
  | word (text : Str)
  | expansion (text : Str)
  | operator (text : Str)
  | newline
deriving DecidableEq

inductive Pending where
  | none
  | word (text : Str) (expands : Bool)
  | operator (text : Str)

inductive Quoting where
  | unquoted
  | escaped
  | single
  | double
  | doubleEscaped
  | comment

def apostrophe : Char := Char.ofNat 39

def operators : List Str :=
  ["|", "&", ";", "<", ">", "(", ")", "&&", "||", ";;", "<<", ">>", "<&", ">&", "<>", "<<-", ">|"]

def Pending.flush : Pending → List Token
  | .none => []
  | .word text expands => [if expands then .expansion text else .word text]
  | .operator text => [.operator text]

def Pending.extend (expands : Bool) (c : Char) : Pending → Pending
  | .word text expanding => .word (text ++ [c]) (expanding || expands)
  | _ => .word [c] expands

/-- Opening a quotation starts a word even if nothing is quoted. -/
def Pending.open_ : Pending → Pending
  | .word text expanding => .word text expanding
  | _ => .word [] false

def Pending.ended : Pending → List Token
  | .operator text => [.operator text]
  | _ => []

def isPlain (c : Char) : Bool :=
  !(" \t\n\"\\|&;<>()$*?[~#" : Str).contains c && c != apostrophe && c != Char.ofNat 96

def step (quoting : Quoting) (pending : Pending) (c : Char) : List Token × Pending × Quoting :=
  match quoting with
  | .unquoted =>
      if isPlain c then (pending.ended, pending.extend false c, .unquoted)
      else if c = ' ' ∨ c = '\t' then (pending.flush, .none, .unquoted)
      else if c = '\n' then (pending.flush ++ [.newline], .none, .unquoted)
      else if c = apostrophe then (pending.ended, pending.open_, .single)
      else if c = '"' then (pending.ended, pending.open_, .double)
      else if c = '\\' then (pending.ended, pending.open_, .escaped)
      else if c = '#' then
        -- Only at the start of a token does the sign open a comment.
        match pending with
        | .word _ _ => ([], pending.extend false c, .unquoted)
        | _ => (pending.flush, .none, .comment)
      else if operators.contains [c] then
        match pending with
        | .operator text =>
            if operators.contains (text ++ [c]) then ([], .operator (text ++ [c]), .unquoted)
            else ([.operator text], .operator [c], .unquoted)
        | _ => (pending.flush, .operator [c], .unquoted)
      else (pending.ended, pending.extend true c, .unquoted)
  | .escaped => if c = '\n' then ([], pending, .unquoted) else ([], pending.extend false c, .unquoted)
  | .single => if c = apostrophe then ([], pending, .unquoted) else ([], pending.extend false c, .single)
  | .double =>
      if c = '"' then ([], pending, .unquoted)
      else if c = '\\' then ([], pending, .doubleEscaped)
      else if c = '$' ∨ c = Char.ofNat 96 then ([], pending.extend true c, .double)
      else ([], pending.extend false c, .double)
  | .doubleEscaped =>
      if c = '\n' then ([], pending, .double)
      else if c = '$' ∨ c = Char.ofNat 96 ∨ c = '"' ∨ c = '\\' then ([], pending.extend false c, .double)
      else ([], (pending.extend false '\\').extend false c, .double)
  | .comment => if c = '\n' then ([.newline], .none, .unquoted) else ([], .none, .comment)

/-- An open quotation or a final backslash is no complete text. -/
def lexFrom : Quoting → Pending → Str → Option (List Token)
  | .unquoted, pending, [] | .comment, pending, [] => some pending.flush
  | _, _, [] => none
  | quoting, pending, c :: rest =>
      let (tokens, next, mode) := step quoting pending c
      (lexFrom mode next rest).map (tokens ++ ·)

def lex (line : Str) : Option (List Token) := lexFrom .unquoted .none line

/-- Words that are no command names: reserved words and assignments. -/
def isCommandName (name : Str) : Bool :=
  !(["!", "\x7b", "\x7d", "case", "do", "done", "elif", "else", "esac", "fi", "for", "if", "in", "then",
    "until", "while"] : List Str).contains name && !name.contains '='

def pipelineFrom (command : List Str) : List Token → Option (List (List Str))
  | [] => if (command.head?.map isCommandName) = some true then some [command] else none
  | .word text :: rest => pipelineFrom (command ++ [text]) rest
  | .operator ['|'] :: rest =>
      if (command.head?.map isCommandName) = some true then
        (pipelineFrom [] rest).map (command :: ·)
      else none
  | _ :: _ => none

def pipeline (tokens : List Token) : Option (List (List Str)) := pipelineFrom [] tokens

section Scanning

variable {text run body rest : Str} {expands : Bool} {tokens : List Token}

theorem lexFrom_cons (quoting : Quoting) (pending : Pending) (c : Char) (rest : Str) :
    lexFrom quoting pending (c :: rest) =
      (lexFrom (step quoting pending c).2.2 (step quoting pending c).2.1 rest).map
        ((step quoting pending c).1 ++ ·) := by
  cases quoting <;> rfl

theorem lexFrom_plain (plain : ∀ c ∈ run, isPlain c = true) :
    lexFrom .unquoted (.word text expands) (run ++ rest) =
      lexFrom .unquoted (.word (text ++ run) expands) rest := by
  induction run generalizing text with
  | nil => simp
  | cons c run ih =>
      have tail : lexFrom .unquoted (.word (text ++ [c]) expands) (run ++ rest) = _ :=
        ih fun d member => plain d (by simp [member])
      rw [List.append_assoc, List.singleton_append] at tail
      rw [List.cons_append, lexFrom_cons, ← tail]
      simp [step, plain c (by simp), Pending.ended, Pending.extend]

theorem lexFrom_word {pending : Pending} (fresh : ∀ text expands, pending ≠ .word text expands)
    (nonempty : run ≠ []) (plain : ∀ c ∈ run, isPlain c = true) :
    lexFrom .unquoted pending (run ++ rest) =
      (lexFrom .unquoted (.word run false) rest).map (pending.ended ++ ·) := by
  obtain ⟨c, run, rfl⟩ := List.exists_cons_of_ne_nil nonempty
  have tail : lexFrom .unquoted (.word [c] false) (run ++ rest) = _ :=
    lexFrom_plain fun d member => plain d (List.mem_cons_of_mem c member)
  rw [List.cons_append, lexFrom_cons]
  simp only [step, plain c (by simp), if_true]
  cases pending with
  | word text expands => exact absurd rfl (fresh text expands)
  | none => simpa [Pending.extend] using congrArg (Option.map _) tail
  | operator text => simpa [Pending.extend] using congrArg (Option.map _) tail

private theorem lexFrom_single_body (noQuote : apostrophe ∉ body) :
    lexFrom .single (.word text expands) (body ++ apostrophe :: rest) =
      lexFrom .unquoted (.word (text ++ body) expands) rest := by
  induction body generalizing text with
  | nil =>
      rw [List.nil_append, lexFrom_cons]
      simp [step]
  | cons c body ih =>
      have different : c ≠ apostrophe := fun same => noQuote (by simp [same])
      have tail : lexFrom .single (.word (text ++ [c]) expands) (body ++ apostrophe :: rest) = _ :=
        ih fun member => noQuote (by simp [member])
      rw [List.append_assoc, List.singleton_append] at tail
      rw [List.cons_append, lexFrom_cons, ← tail]
      simp [step, different, Pending.extend]

/-- A single-quoted word is its body, whatever the body contains. -/
theorem lexFrom_quoted {pending : Pending} (fresh : ∀ text expands, pending ≠ .word text expands)
    (noQuote : apostrophe ∉ body) :
    lexFrom .unquoted pending (apostrophe :: body ++ apostrophe :: rest) =
      (lexFrom .unquoted (.word body false) rest).map (pending.ended ++ ·) := by
  have inner : lexFrom .single (.word [] false) (body ++ apostrophe :: rest) = _ :=
    lexFrom_single_body noQuote
  have opened : step .unquoted pending apostrophe = (pending.ended, .word [] false, .single) := by
    have shape : step .unquoted pending apostrophe = (pending.ended, pending.open_, .single) := by
      cases pending <;> rfl
    cases pending with
    | word text expands => exact absurd rfl (fresh text expands)
    | none => exact shape
    | operator text => exact shape
  rw [List.cons_append, lexFrom_cons, opened, inner]
  rfl

theorem lexFrom_blank {pending : Pending} :
    lexFrom .unquoted pending (' ' :: rest) =
      (lexFrom .unquoted .none rest).map (pending.flush ++ ·) := by
  rw [lexFrom_cons]
  rfl

theorem lexFrom_pipe {pending : Pending} (fresh : ∀ text, pending ≠ .operator text) :
    lexFrom .unquoted pending ('|' :: rest) =
      (lexFrom .unquoted (.operator ['|']) rest).map (pending.flush ++ ·) := by
  rw [lexFrom_cons]
  cases pending with
  | operator text => exact absurd rfl (fresh text)
  | none => rfl
  | word text expands => rfl

end Scanning

end DongleRescue.Posix
