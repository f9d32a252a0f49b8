import DongleRescue.Posix.Command
import DongleRescue.Repair.Planner

namespace DongleRescue

open DongleRescue.Data DongleRescue.Posix

/-! The planner's shell lines.  Ids and module names belong to grammars without
any character the shell interprets, so both lines are safe by construction. -/

theorem IsHex4.plain {text : Str} (hex : IsHex4 text) : ∀ c ∈ text, isPlain c = true := by
  have all : ∀ c ∈ hexDigits, isPlain c = true := by decide
  exact forall_of_isHex hex.2 all

theorem isPlain_of_moduleName {module : Str} (valid : isModuleName module = true) :
    ∀ c ∈ module, isPlain c = true := by
  have all : ∀ c ∈ moduleChars, isPlain c = true := by decide
  exact fun c member => all c (isModuleName_chars valid c member)

theorem noQuote_of_plain {text : Str} (plain : ∀ c ∈ text, isPlain c = true) :
    apostrophe ∉ text := by
  intro member
  exact absurd (plain apostrophe member) (by decide)

theorem noQuote_append {first second : Str} (left : apostrophe ∉ first)
    (right : apostrophe ∉ second) : apostrophe ∉ first ++ second := by
  intro member
  exact (List.mem_append.mp member).elim left right

theorem noQuote_cons {c : Char} {text : Str} (different : apostrophe ≠ c)
    (right : apostrophe ∉ text) : apostrophe ∉ c :: text := by
  intro member
  exact (List.mem_cons.mp member).elim different right

namespace Repair

section Lines

variable {vid pid module : Str}

def aliasText (vid pid module : Str) : Str :=
  "alias usb:v" ++ upper vid ++ 'p' :: upper pid ++ "d*dc*dsc*dp*icFFiscFFip00in* " ++ module

theorem aliasText_head (vid pid module : Str) : (aliasText vid pid module).head? = some 'a' := by
  unfold aliasText
  simp

theorem aliasText_last (nonempty : module ≠ []) :
    (aliasText vid pid module).getLast? = module.getLast? := by
  unfold aliasText
  exact List.getLast?_append_of_ne_nil _ nonempty

theorem strip_aliasLine (valid : isModuleName module = true) :
    strip (aliasLine vid pid module) = aliasText vid pid module := by
  have notSpace : ∀ c ∈ moduleChars, isSpace c = false := by decide
  have head := aliasText_head vid pid module
  have last : (aliasText vid pid module).getLast? = module.getLast? :=
    aliasText_last (isModuleName_ne_nil valid)
  have split : aliasLine vid pid module = aliasText vid pid module ++ ['\n'] := rfl
  rw [split]
  refine stripWhile_append ?_ ?_ ?_ (by decide)
  · intro empty
    simp [empty] at head
  · intro c first
    rw [head] at first
    cases first
    decide
  · intro c final
    rw [last] at final
    exact notSpace c (isModuleName_chars valid c (List.mem_of_mem_getLast? final))

theorem plain_newIdPath (valid : isModuleName module = true) :
    ∀ c ∈ newIdPath module, isPlain c = true := by
  unfold newIdPath
  refine List.forall_mem_append.mpr ⟨List.forall_mem_append.mpr ⟨?_, ?_⟩, ?_⟩
  · decide
  · exact isPlain_of_moduleName valid
  · decide

theorem plain_confPath (vidHex : IsHex4 vid) (pidHex : IsHex4 pid) :
    ∀ c ∈ confPath vid pid, isPlain c = true := by
  unfold confPath
  refine List.forall_mem_append.mpr ⟨List.forall_mem_append.mpr
    ⟨List.forall_mem_append.mpr ⟨?_, vidHex.plain⟩, List.forall_mem_cons.mpr ⟨?_, pidHex.plain⟩⟩, ?_⟩
  · decide
  · decide
  · decide

theorem noQuote_ids (vidHex : IsHex4 vid) (pidHex : IsHex4 pid) :
    apostrophe ∉ vid ++ ' ' :: pid :=
  noQuote_append (noQuote_of_plain vidHex.plain)
    (noQuote_cons (by decide) (noQuote_of_plain pidHex.plain))

theorem noQuote_persistFormat (vidHex : IsHex4 vid) (pidHex : IsHex4 pid) :
    apostrophe ∉ persistFormat vid pid := by
  unfold persistFormat
  refine noQuote_append (noQuote_append (noQuote_append (by decide) ?_) ?_) (by decide)
  · exact noQuote_of_plain vidHex.plain
  · exact noQuote_cons (by decide) (noQuote_of_plain pidHex.plain)

theorem noQuote_aliasText (vidHex : IsHex4 vid) (pidHex : IsHex4 pid)
    (valid : isModuleName module = true) : apostrophe ∉ aliasText vid pid module := by
  unfold aliasText
  refine noQuote_append (noQuote_append (noQuote_append (noQuote_append (by decide) ?_) ?_)
    (by decide)) ?_
  · exact noQuote_of_plain vidHex.upper.plain
  · exact noQuote_cons (by decide) (noQuote_of_plain pidHex.upper.plain)
  · exact noQuote_of_plain (isPlain_of_moduleName valid)

def literal (text : Str) (nonempty : text ≠ [] := by decide)
    (plain : ∀ c ∈ text, isPlain c = true := by decide) : Piece :=
  .bare text nonempty plain

def newIdLine (vidHex : IsHex4 vid) (pidHex : IsHex4 pid) (valid : isModuleName module = true) :
    Pipeline where
  head := {
    head := literal "echo"
    arguments := [.quoted (vid ++ ' ' :: pid) (noQuote_ids vidHex pidHex)] }
  rest := [{
    head := literal "sudo"
    arguments := [literal "tee",
      .bare (newIdPath module) (by unfold newIdPath; simp) (plain_newIdPath valid)] }]

def persistLine (vidHex : IsHex4 vid) (pidHex : IsHex4 pid) (valid : isModuleName module = true) :
    Pipeline where
  head := {
    head := literal "printf"
    arguments := [.quoted (persistFormat vid pid) (noQuote_persistFormat vidHex pidHex),
      .quoted (aliasText vid pid module) (noQuote_aliasText vidHex pidHex valid)] }
  rest := [{
    head := literal "sudo"
    arguments := [literal "tee", literal "-a",
      .bare (confPath vid pid) (by unfold confPath; simp) (plain_confPath vidHex pidHex)] }]

theorem newIdCommand_eq (vidHex : IsHex4 vid) (pidHex : IsHex4 pid)
    (valid : isModuleName module = true) :
    newIdCommand vid pid module = (newIdLine vidHex pidHex valid).render := by
  unfold newIdCommand newIdLine
  simp [Pipeline.render, Command.render, Piece.render, literal, apostrophe]

theorem persistCommand_eq (vidHex : IsHex4 vid) (pidHex : IsHex4 pid)
    (valid : isModuleName module = true) :
    persistCommand vid pid module = (persistLine vidHex pidHex valid).render := by
  unfold persistCommand persistLine
  rw [strip_aliasLine valid]
  simp [Pipeline.render, Command.render, Piece.render, literal, apostrophe]

end Lines

/-- Whatever the knowledge base and the host supply, the planner fails, prints no
command, or prints two lines of which a shell reads nothing but these words and
the two pipes. -/
theorem planStateB_commands_lex [Interpreter] (device : UsbDevice) (kb : Kb)
    (boundDriver loadedModule : Option Str) :
    (∃ failure, planStateB device kb boundDriver loadedModule = .error failure) ∨
    ∃ plan, planStateB device kb boundDriver loadedModule = .ok plan ∧
      (plan.commands = [] ∨
        ∃ bind persist module, plan.commands = [bind, persist] ∧ isModuleName module = true ∧
          IsHex4 device.vid ∧ lower device.vid = device.vid ∧
          IsHex4 device.pid ∧ lower device.pid = device.pid ∧
          lex bind = some [.word "echo", .word (device.vid ++ ' ' :: device.pid),
            .operator ['|'], .word "sudo", .word "tee", .word (newIdPath module)] ∧
          lex persist = some [.word "printf", .word (persistFormat device.vid device.pid),
            .word (aliasText device.vid device.pid module), .operator ['|'], .word "sudo",
            .word "tee", .word "-a", .word (confPath device.vid device.pid)]) := by
  cases planned : planStateB device kb boundDriver loadedModule with
  | error failure => exact .inl ⟨failure, rfl⟩
  | ok plan =>
      refine .inr ⟨plan, rfl, ?_⟩
      cases planStateB_planned planned with
      | unknown missing => exact .inl rfl
      | refused found infeasible => exact .inl rfl
      | @bind entry module chipset confidence found feasible chosen valid =>
          obtain ⟨vidHex, vidLower⟩ := device.vidHex
          obtain ⟨pidHex, pidLower⟩ := device.pidHex
          refine .inr ⟨_, _, module, rfl, valid, vidHex, vidLower, pidHex, pidLower, ?_, ?_⟩
          · rw [newIdCommand_eq vidHex pidHex valid]
            exact lex_render _
          · rw [persistCommand_eq vidHex pidHex valid]
            exact lex_render _

end Repair

end DongleRescue
