import DongleRescue.Posix.Command
import Mathlib.Logic.Function.Basic

namespace DongleRescue.Posix

open DongleRescue.Data

/-! The utilities a privileged one-liner is made of, over the contents of
regular files, and the pipelines of them.  What a utility leaves unspecified is
not executed. -/

abbrev Files := Str → Option Str

def Files.write (files : Files) (path content : Str) : Files :=
  Function.update files path (some content)

def Files.append (files : Files) (path content : Str) : Files :=
  files.write path ((files path).getD [] ++ content)

def Files.remove (files : Files) (path : Str) : Files :=
  Function.update files path none

/-- One pass over a `printf` format; the unused arguments are returned. -/
def formatOnce : Str → List Str → Option (Str × List Str)
  | [], arguments => some ([], arguments)
  | '\\' :: 'n' :: format, arguments =>
      (formatOnce format arguments).map fun (out, left) => ('\n' :: out, left)
  | '\\' :: 't' :: format, arguments =>
      (formatOnce format arguments).map fun (out, left) => ('\t' :: out, left)
  | '\\' :: '\\' :: format, arguments =>
      (formatOnce format arguments).map fun (out, left) => ('\\' :: out, left)
  | '\\' :: _, _ => none
  | '%' :: 's' :: format, arguments =>
      (formatOnce format arguments.tail).map fun (out, left) => (arguments.headD [] ++ out, left)
  | '%' :: '%' :: format, arguments =>
      (formatOnce format arguments).map fun (out, left) => ('%' :: out, left)
  | '%' :: _, _ => none
  | c :: format, arguments =>
      (formatOnce format arguments).map fun (out, left) => (c :: out, left)

/-- The format is reused while it consumes arguments. -/
private def printfFrom : Nat → Str → List Str → Option Str
  | 0, _, _ => none
  | passes + 1, format, arguments => do
      let (out, left) ← formatOnce format arguments
      if left = [] ∨ left.length = arguments.length then return out
      return out ++ (← printfFrom passes format left)

def printf (format : Str) (arguments : List Str) : Option Str :=
  printfFrom (arguments.length + 1) format arguments

def echo (arguments : List Str) : Option Str :=
  if arguments.any (fun text => text.contains '\\' || startsWith text "-") then none
  else some (join " " arguments ++ ['\n'])

def execute (input : Str) (files : Files) : List Str → Option (Str × Files)
  | [] => none
  | name :: arguments =>
      if name = "sudo" then execute input files arguments
      else if name = "echo" then (echo arguments).map (·, files)
      else if name = "printf" then
        match arguments with
        | format :: values => (printf format values).map (·, files)
        | [] => none
      else if name = "tee" then
        match arguments with
        | [option, path] => if option = "-a" then some (input, files.append path input) else none
        | [path] => if startsWith path "-" then none else some (input, files.write path input)
        | _ => none
      else none

def runPipeline (input : Str) (files : Files) : List (List Str) → Option (Str × Files)
  | [] => some (input, files)
  | command :: rest => do
      let (output, files) ← execute input files command
      runPipeline output files rest

def runLine (line : Str) (files : Files) : Option Files := do
  let tokens ← lex line
  let commands ← pipeline tokens
  (runPipeline [] files commands).map Prod.snd

theorem Files.append_self (files : Files) (path content : Str) :
    files.append path content path = some ((files path).getD [] ++ content) :=
  Function.update_self path _ files

/-- Removing a file undoes an append exactly when there was no file. -/
theorem Files.remove_append_eq_iff {files : Files} {path content : Str} :
    (files.append path content).remove path = files ↔ files path = none := by
  rw [Files.remove, Files.append, Files.write, Function.update_idem, Function.update_eq_self_iff]
  exact eq_comm

theorem Files.remove_idem (files : Files) (path : Str) :
    (files.remove path).remove path = files.remove path := by
  unfold Files.remove
  rw [Function.update_idem]

theorem runLine_render (line : Pipeline)
    (named : ∀ command ∈ line.head :: line.rest, isCommandName command.head.word = true)
    (files : Files) :
    runLine line.render files = (runPipeline [] files line.commands).map Prod.snd := by
  rw [runLine, lex_render, Option.bind_eq_bind, Option.bind_some, pipeline_tokens line named]
  rfl

def isFormatPlain (c : Char) : Bool := c != '\\' && c != '%'

theorem formatOnce_plain {text format : Str} {arguments : List Str}
    (plain : ∀ c ∈ text, isFormatPlain c = true) :
    formatOnce (text ++ format) arguments =
      (formatOnce format arguments).map fun (out, left) => (text ++ out, left) := by
  induction text with
  | nil => simp
  | cons c text ih =>
      have tail := ih (fun d member => plain d (by simp [member]))
      have here := plain c (by simp)
      simp only [isFormatPlain, Bool.and_eq_true, bne_iff_ne, ne_eq] at here
      rw [List.cons_append, formatOnce.eq_9 _ _ _ (by simp_all) (by simp_all) (by simp_all)
        (by simp_all) (by simp_all) (by simp_all) (by simp_all), tail]
      simp [Function.comp_def]

@[simp] theorem formatOnce_newline (format : Str) (arguments : List Str) :
    formatOnce ('\\' :: 'n' :: format) arguments =
      (formatOnce format arguments).map fun (out, left) => ('\n' :: out, left) := by
  rw [formatOnce]

@[simp] theorem formatOnce_string (format value : Str) (arguments : List Str) :
    formatOnce ('%' :: 's' :: format) (value :: arguments) =
      (formatOnce format arguments).map fun (out, left) => (value ++ out, left) := by
  rw [formatOnce]
  rfl

theorem printf_of_pass {format out : Str} {arguments : List Str}
    (pass : formatOnce format arguments = some (out, [])) : printf format arguments = some out := by
  rw [printf, printfFrom, pass]
  simp

theorem execute_printf (input : Str) (files : Files) (format : Str) (values : List Str) :
    execute input files ("printf" :: format :: values) =
      (printf format values).map (·, files) := by
  rw [execute, if_neg (by decide), if_neg (by decide), if_pos rfl]

theorem execute_sudo (input : Str) (files : Files) (command : List Str) :
    execute input files ("sudo" :: command) = execute input files command := by
  rw [execute.eq_def]
  exact if_pos rfl

theorem execute_tee_append (input : Str) (files : Files) (path : Str) :
    execute input files ["tee", "-a", path] = some (input, files.append path input) := by
  rw [execute, if_neg (by decide), if_neg (by decide), if_neg (by decide), if_pos rfl]
  exact if_pos rfl

end DongleRescue.Posix
