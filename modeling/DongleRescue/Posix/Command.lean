import DongleRescue.Posix.Shell

namespace DongleRescue.Posix

open DongleRescue.Data

/-! Command lines that are safe by construction: every word is written bare, in
characters without meaning to the shell, or between single quotes. -/

/-- One written word, with the reason why the shell reads it back unchanged. -/
inductive Piece where
  | bare (text : Str) (nonempty : text ≠ []) (plain : ∀ c ∈ text, isPlain c = true)
  | quoted (body : Str) (noQuote : apostrophe ∉ body)

def Piece.word : Piece → Str
  | bare text _ _ => text
  | quoted body _ => body

def Piece.render : Piece → Str
  | bare text _ _ => text
  | quoted body _ => apostrophe :: body ++ [apostrophe]

structure Command where
  head : Piece
  arguments : List Piece

namespace Command

def render (command : Command) : Str :=
  command.head.render ++ command.arguments.flatMap fun piece => ' ' :: piece.render

def words (command : Command) : List Str :=
  command.head.word :: command.arguments.map Piece.word

def tokens (command : Command) : List Token := command.words.map .word

end Command

structure Pipeline where
  head : Command
  rest : List Command

namespace Pipeline

def render (line : Pipeline) : Str :=
  line.head.render ++ line.rest.flatMap fun command => ' ' :: '|' :: ' ' :: command.render

def tokens (line : Pipeline) : List Token :=
  line.head.tokens ++ line.rest.flatMap fun command => .operator ['|'] :: command.tokens

def commands (line : Pipeline) : List (List Str) := (line.head :: line.rest).map Command.words

end Pipeline

section Lexing

variable {rest : Str} {after : Option (List Token)}

theorem lexFrom_piece (piece : Piece) :
    lexFrom .unquoted .none (piece.render ++ rest) =
      lexFrom .unquoted (.word piece.word false) rest := by
  have fresh : ∀ text expands, Pending.none ≠ .word text expands := by
    intro text expands same
    cases same
  cases piece with
  | bare text nonempty plain =>
      rw [Piece.render, lexFrom_word fresh nonempty plain]
      simp [Pending.ended, Piece.word]
  | quoted body noQuote =>
      have read : lexFrom .unquoted .none (apostrophe :: body ++ apostrophe :: rest) = _ :=
        lexFrom_quoted fresh noQuote
      rw [Piece.render, List.append_assoc, List.singleton_append, read]
      simp [Pending.ended, Piece.word]

/-- Arguments extend a word that is being read to the words of a whole command,
when what follows the command ends its last word. -/
theorem lexFrom_arguments (ends : ∀ word, lexFrom .unquoted (.word word false) rest =
      after.map (Token.word word :: ·)) (pieces : List Piece) (word : Str) :
    lexFrom .unquoted (.word word false) ((pieces.flatMap fun piece => ' ' :: piece.render) ++ rest) =
      after.map (((word :: pieces.map Piece.word).map Token.word) ++ ·) := by
  induction pieces generalizing word with
  | nil => exact ends word
  | cons piece pieces ih =>
      rw [List.flatMap_cons, List.cons_append, List.cons_append, lexFrom_blank, List.append_assoc,
        lexFrom_piece, ih piece.word, Option.map_map]
      rfl

theorem lexFrom_command (ends : ∀ word, lexFrom .unquoted (.word word false) rest =
      after.map (Token.word word :: ·)) (command : Command) :
    lexFrom .unquoted .none (command.render ++ rest) = after.map (command.tokens ++ ·) := by
  rw [Command.render, List.append_assoc, lexFrom_piece, lexFrom_arguments ends]
  rfl

theorem lexFrom_piped (commands : List Command) (word : Str) :
    lexFrom .unquoted (.word word false)
        (commands.flatMap fun command => ' ' :: '|' :: ' ' :: command.render) =
      some (.word word :: commands.flatMap fun command => .operator ['|'] :: command.tokens) := by
  induction commands generalizing word with
  | nil => rfl
  | cons command commands ih =>
      have ih' : ∀ word, lexFrom .unquoted (.word word false) _ =
          (some (commands.flatMap fun command => .operator ['|'] :: command.tokens)).map
            (Token.word word :: ·) := ih
      have inner := lexFrom_command ih' command
      rw [List.flatMap_cons, List.cons_append, List.cons_append, List.cons_append, lexFrom_blank,
        lexFrom_pipe (by intro text same; cases same), lexFrom_blank, inner]
      rfl

/-- A safe command line lexes to its own words and pipes, and to nothing else. -/
theorem lex_render (line : Pipeline) : lex line.render = some line.tokens := by
  have piped : ∀ word, lexFrom .unquoted (.word word false) _ =
      (some (line.rest.flatMap fun command => .operator ['|'] :: command.tokens)).map
        (Token.word word :: ·) := lexFrom_piped line.rest
  exact lexFrom_command piped line.head

end Lexing

section Parsing

private theorem pipelineFrom_words {tokens : List Token} (command words : List Str) :
    pipelineFrom command (words.map .word ++ tokens) = pipelineFrom (command ++ words) tokens := by
  induction words generalizing command with
  | nil => simp
  | cons word words ih =>
      have extended := ih (command ++ [word])
      rw [List.append_assoc, List.singleton_append] at extended
      rw [List.map_cons, List.cons_append, pipelineFrom, extended]

private theorem pipelineFrom_command {tokens : List Token} (command : Command) :
    pipelineFrom [] (command.tokens ++ tokens) = pipelineFrom command.words tokens :=
  pipelineFrom_words [] command.words

private theorem pipelineFrom_piped {commands : List Command} {before : Command}
    (named : ∀ command ∈ before :: commands, isCommandName command.head.word = true) :
    pipelineFrom before.words
        (commands.flatMap fun command => .operator ['|'] :: command.tokens) =
      some ((before :: commands).map Command.words) := by
  have here : (before.words.head?.map isCommandName) = some true := by
    simp [Command.words, named before]
  induction commands generalizing before with
  | nil => simp [pipelineFrom, here]
  | cons command commands ih =>
      have later : ∀ command' ∈ command :: commands, isCommandName command'.head.word = true :=
        fun command' member => named command' (List.mem_cons_of_mem before member)
      have tail := ih later (by simp [Command.words, later command])
      rw [List.flatMap_cons, List.cons_append, pipelineFrom, if_pos here, pipelineFrom_command, tail]
      rfl

/-- Its tokens are read as exactly its commands. -/
theorem pipeline_tokens (line : Pipeline)
    (named : ∀ command ∈ line.head :: line.rest, isCommandName command.head.word = true) :
    pipeline line.tokens = some line.commands := by
  rw [pipeline, Pipeline.tokens, pipelineFrom_command, pipelineFrom_piped named]
  rfl

end Parsing

end DongleRescue.Posix
