import DongleRescue.Cli.Commands

namespace DongleRescue.Cli

open DongleRescue.Data DongleRescue.Repair

/-! One spelling of every command line: the positional arguments first, then each option
in a token of its own.  A parsed command line is exactly what such a line says. -/

/-- The token that gives an option its value, whatever stands behind it. -/
def spelled : Str × Option Str → Str
  | (name, some value) => name ++ '=' :: value
  | (name, none) => name

def Parsed.line (parsed : Parsed) : List Str := parsed.positional ++ parsed.opts.map spelled

/-- Options are named with two dashes and no equals sign, and nothing else begins with
two dashes. -/
structure Parsed.WellFormed (parsed : Parsed) : Prop where
  names : ∀ opt ∈ parsed.opts, isBare opt.1 = true
  arguments : ∀ tok ∈ parsed.positional, isOption tok = false

section Returned

variable {tok name : Str} {value : Option Str} {first second : Parsed}

theorem Parsed.WellFormed.append (one : first.WellFormed) (two : second.WellFormed) :
    (first ++ second).WellFormed where
  names := List.forall_mem_append.mpr ⟨one.names, two.names⟩
  arguments := List.forall_mem_append.mpr ⟨one.arguments, two.arguments⟩

theorem wellFormed_option (bare : isBare name = true) : (option name value).WellFormed where
  names := List.forall_mem_singleton.mpr bare
  arguments := List.forall_mem_nil _

theorem wellFormed_argument (plain : isOption tok = false) : (argument tok).WellFormed where
  names := List.forall_mem_nil _
  arguments := List.forall_mem_singleton.mpr plain

/-- The name in front of an equals sign is an option by itself. -/
theorem isBare_takeWhile (opt : isOption tok = true) : isBare (tok.takeWhile (· != '=')) = true := by
  obtain ⟨rest, split⟩ := startsWith_iff.mp opt
  have dashes : tok.takeWhile (· != '=') = '-' :: '-' :: rest.takeWhile (· != '=') := by
    rw [split]
    rfl
  refine isBare_iff.mpr ⟨by simp [dashes, isOption, startsWith, List.isPrefixOf], ?_⟩
  by_contra assigned
  have member : '=' ∈ tok.takeWhile (· != '=') := by simpa using assigned
  have kept := List.mem_takeWhile_imp member
  cases kept

theorem wellFormed_parse (argv : List Str) : (parse argv).WellFormed := by
  induction argv using parse.induct with
  | case1 => exact ⟨List.forall_mem_nil _, List.forall_mem_nil _⟩
  | case2 tok opt assigned =>
      rw [parse, if_pos opt, if_pos assigned]
      exact wellFormed_option (isBare_takeWhile opt)
  | case3 tok opt unassigned =>
      rw [parse, if_pos opt, if_neg unassigned]
      exact wellFormed_option (isBare_iff.mpr ⟨opt, by simpa using unassigned⟩)
  | case4 tok plain =>
      rw [parse, if_neg plain]
      exact wellFormed_argument (by simpa using plain)
  | case5 tok nxt rest opt assigned ih =>
      rw [parse, if_pos opt, if_pos assigned]
      exact (wellFormed_option (isBare_takeWhile opt)).append ih
  | case6 tok nxt rest opt unassigned nxtOpt ih =>
      rw [parse, if_pos opt, if_neg unassigned, if_pos nxtOpt]
      exact (wellFormed_option (isBare_iff.mpr ⟨opt, by simpa using unassigned⟩)).append ih
  | case7 tok nxt rest opt unassigned nxtPlain ih =>
      rw [parse, if_pos opt, if_neg unassigned, if_neg nxtPlain]
      exact (wellFormed_option (isBare_iff.mpr ⟨opt, by simpa using unassigned⟩)).append ih
  | case8 tok nxt rest plain ih =>
      rw [parse, if_neg plain]
      exact (wellFormed_argument (by simpa using plain)).append ih

end Returned

section Reading

variable {name : Str} {value : Option Str} {rest : List Str} {parsed first second : Parsed}

theorem isOption_spelled (bare : isBare name = true) : isOption (spelled (name, value)) = true := by
  have opt := (isBare_iff.mp bare).1
  cases value with
  | none => exact opt
  | some value =>
      obtain ⟨tail, split⟩ := startsWith_iff.mp opt
      exact startsWith_iff.mpr ⟨tail ++ '=' :: value, by rw [spelled, split, List.append_assoc]⟩

theorem parse_spelled_cons (bare : isBare name = true) (valueless : Valueless rest) :
    parse (spelled (name, value) :: rest) = option name value ++ parse rest := by
  cases value with
  | none => exact parse_bare_none bare valueless
  | some value =>
      have unassigned : ∀ c ∈ name, (c != '=') = true := by
        have none_ := (isBare_iff.mp bare).2
        intro c member
        rw [bne_iff_ne]
        rintro rfl
        simp [member] at none_
      have notBare : isBare (spelled (name, some value)) = false := by
        simp [isBare, spelled]
      have read : assignment (spelled (name, some value)) = option name (some value) := by
        rw [assignment, spelled, List.takeWhile_append_of_pos unassigned, List.dropWhile_append_of_pos unassigned]
        simp
      rw [parse_assignment (isOption_spelled bare) notBare, read]

theorem parse_options {opts : List (Str × Option Str)} (bare : ∀ opt ∈ opts, isBare opt.1 = true) :
    parse (opts.map spelled) = ⟨opts, []⟩ := by
  induction opts with
  | nil => rfl
  | cons opt opts ih =>
      obtain ⟨here, later⟩ := List.forall_mem_cons.mp bare
      have valueless : Valueless (opts.map spelled) := by
        intro nxt member
        obtain ⟨other, inOpts, same⟩ := List.mem_map.mp (List.mem_of_mem_head? member)
        rw [← same]
        exact isOption_spelled (later other inOpts)
      rw [List.map_cons, parse_spelled_cons here valueless, ih later]
      rfl

theorem parse_arguments {arguments : List Str} (plain : ∀ tok ∈ arguments, isOption tok = false) :
    parse (arguments ++ rest) = ⟨[], arguments⟩ ++ parse rest := by
  induction arguments with
  | nil => rfl
  | cons tok arguments ih =>
      obtain ⟨here, later⟩ := List.forall_mem_cons.mp plain
      rw [List.cons_append, parse_argument here, ih later, ← append_assoc]
      rfl

/-- What a spelled line says is read back from it. -/
theorem parse_line (wellFormed : parsed.WellFormed) : parse parsed.line = parsed := by
  rw [Parsed.line, parse_arguments wellFormed.arguments, parse_options wellFormed.names]
  show Parsed.mk _ _ = _
  simp

theorem line_injective (one : first.WellFormed) (two : second.WellFormed) :
    first.line = second.line ↔ first = second := by
  constructor
  · intro same
    rw [← parse_line one, same, parse_line two]
  · rintro rfl
    rfl

variable [Interpreter] {runtime : Runtime} {loads : Loads} {journals : Journals}
  {host : Option Host} {kb : Option Kb} {journalPath : Option Str}

/-- Parsing returns exactly the well-formed readings, every reading has one spelling, which is read
as it, and a command line is answered as the spelling of its reading. -/
theorem run_line (argv other : List Str) (parsed : Parsed) :
    ((∃ line, parse line = parsed) ↔ parsed.WellFormed) ∧
      (parsed.WellFormed → parse parsed.line = parsed) ∧
      ((parse argv).line = (parse other).line ↔ parse argv = parse other) ∧
      run runtime loads journals host kb journalPath (parse argv).line =
        run runtime loads journals host kb journalPath argv := by
  refine ⟨⟨?_, fun wellFormed => ⟨_, parse_line wellFormed⟩⟩, parse_line, ?_, ?_⟩
  · rintro ⟨line, rfl⟩
    exact wellFormed_parse line
  · exact line_injective (wellFormed_parse argv) (wellFormed_parse other)
  · rw [run, run, parse_line (wellFormed_parse argv)]

end Reading

end DongleRescue.Cli
