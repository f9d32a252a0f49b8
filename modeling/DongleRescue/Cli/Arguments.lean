import DongleRescue.Data.Text

namespace DongleRescue.Cli

open DongleRescue.Data

/-! The command line: options, with the token that follows one taken as its value, and
positional arguments. -/

structure Parsed where
  opts : List (Str × Option Str)
  positional : List Str
deriving DecidableEq

instance : Append Parsed where
  append first second := ⟨first.opts ++ second.opts, first.positional ++ second.positional⟩

def isOption (tok : Str) : Bool := startsWith tok "--"

/-- An option whose value is not part of its own token. -/
def isBare (tok : Str) : Bool := isOption tok && !tok.contains '='

def option (name : Str) (value : Option Str) : Parsed := ⟨[(name, value)], []⟩

def argument (tok : Str) : Parsed := ⟨[], [tok]⟩

/-- `tok.split("=", 1)`. -/
def assignment (tok : Str) : Parsed :=
  option (tok.takeWhile (· != '=')) (some ((tok.dropWhile (· != '=')).drop 1))

def parse : List Str → Parsed
  | [] => ⟨[], []⟩
  | [tok] =>
      if isOption tok then
        if tok.contains '=' then assignment tok else option tok none
      else argument tok
  | tok :: nxt :: rest =>
      if isOption tok then
        if tok.contains '=' then assignment tok ++ parse (nxt :: rest)
        else if isOption nxt then option tok none ++ parse (nxt :: rest)
        else option tok (some nxt) ++ parse rest
      else argument tok ++ parse (nxt :: rest)

def has (opts : List (Str × Option Str)) (name : Str) : Bool := opts.any fun opt => opt.1 = name

def optValue (opts : List (Str × Option Str)) (name : Str) : Option Str :=
  (opts.find? fun opt => opt.1 = name).bind Prod.snd

/-- The documented flags that take no value. -/
inductive Flag where
  | json
  | verbose
  | debug
  | nonInteractive
  | noNetwork
  | dryRun
  | execute

def Flag.text : Flag → Str
  | json => "--json"
  | verbose => "--verbose"
  | debug => "--debug"
  | nonInteractive => "--non-interactive"
  | noNetwork => "--no-network"
  | dryRun => "--dry-run"
  | execute => "--execute"

section Steps

variable {tok nxt : Str} {rest before after : List Str}

@[simp] theorem append_opts (first second : Parsed) : (first ++ second).opts = first.opts ++ second.opts := rfl

@[simp] theorem append_positional (first second : Parsed) :
    (first ++ second).positional = first.positional ++ second.positional := rfl

theorem append_assoc (first second third : Parsed) : first ++ second ++ third = first ++ (second ++ third) := by
  show Parsed.mk _ _ = Parsed.mk _ _
  simp

theorem append_nil (parsed : Parsed) : parsed ++ parse [] = parsed := by
  show Parsed.mk _ _ = _
  simp [parse]

theorem nil_append (parsed : Parsed) : parse [] ++ parsed = parsed := rfl

theorem isBare_iff : isBare tok = true ↔ isOption tok = true ∧ tok.contains '=' = false := by
  simp [isBare]

theorem parse_argument (plain : isOption tok = false) : parse (tok :: rest) = argument tok ++ parse rest := by
  cases rest with
  | nil =>
      rw [append_nil]
      simp [parse, plain]
  | cons nxt rest => simp [parse, plain]

theorem parse_assignment (opt : isOption tok = true) (notBare : isBare tok = false) :
    parse (tok :: rest) = assignment tok ++ parse rest := by
  have assigned : '=' ∈ tok := by simpa [isBare, opt] using notBare
  cases rest with
  | nil =>
      rw [append_nil]
      simp [parse, opt, assigned]
  | cons nxt rest => simp [parse, opt, assigned]

theorem parse_bare_value (bare : isBare tok = true) (plain : isOption nxt = false) :
    parse (tok :: nxt :: rest) = option tok (some nxt) ++ parse rest := by
  obtain ⟨opt, unassigned⟩ := isBare_iff.mp bare
  rw [parse, if_pos opt, unassigned, plain]
  rfl

/-- No value follows: the end of the line, or another option. -/
def Valueless (rest : List Str) : Prop := ∀ nxt ∈ rest.head?, isOption nxt = true

theorem valueless_nil : Valueless [] := by
  intro nxt member
  cases member

theorem valueless_option (opt : isOption tok = true) : Valueless (tok :: rest) := by
  intro nxt member
  cases member
  exact opt

theorem parse_bare_none (bare : isBare tok = true) (valueless : Valueless rest) :
    parse (tok :: rest) = option tok none ++ parse rest := by
  obtain ⟨opt, unassigned⟩ := isBare_iff.mp bare
  cases rest with
  | nil =>
      rw [append_nil, parse, if_pos opt, unassigned]
      rfl
  | cons nxt later =>
      have isOpt : isOption nxt = true := valueless nxt rfl
      rw [parse, if_pos opt, unassigned, if_pos isOpt]
      rfl

/-- The last token takes nothing from what follows. -/
def Closed (before : List Str) : Prop := ∀ last ∈ before.getLast?, isBare last = false

theorem closed_nil : Closed [] := by
  intro last member
  cases member

theorem Closed.tail (closed : Closed (tok :: rest)) : Closed rest := by
  cases rest with
  | nil => exact closed_nil
  | cons nxt rest =>
      intro last member
      exact closed last (by rwa [List.getLast?_cons_cons])

theorem parse_append (apart : Closed before ∨ Valueless after) :
    parse (before ++ after) = parse before ++ parse after := by
  induction before using parse.induct with
  | case1 => rfl
  | case2 tok opt assigned =>
      have notBare : isBare tok = false := by simp only [isBare, opt, assigned]; rfl
      rw [List.singleton_append, parse_assignment opt notBare, parse_assignment opt notBare, append_nil]
  | case3 tok opt unassigned =>
      have bare : isBare tok = true := isBare_iff.mpr ⟨opt, by simpa using unassigned⟩
      have valueless : Valueless after := by
        refine apart.resolve_left fun closed => ?_
        have notBare := closed tok rfl
        rw [bare] at notBare
        cases notBare
      rw [List.singleton_append, parse_bare_none bare valueless, parse_bare_none bare valueless_nil, append_nil]
  | case4 tok plain =>
      have plain : isOption tok = false := by simpa using plain
      rw [List.singleton_append, parse_argument plain, parse_argument plain, append_nil]
  | case5 tok nxt rest opt assigned ih =>
      have notBare : isBare tok = false := by simp only [isBare, opt, assigned]; rfl
      rw [List.cons_append, parse_assignment opt notBare, parse_assignment opt notBare,
        ih (apart.imp_left Closed.tail), append_assoc]
  | case6 tok nxt rest opt unassigned nxtOpt ih =>
      have bare : isBare tok = true := isBare_iff.mpr ⟨opt, by simpa using unassigned⟩
      have valueless : Valueless (nxt :: rest) ∧ Valueless (nxt :: rest ++ after) := by
        refine ⟨fun other member => ?_, fun other member => ?_⟩
        · cases member
          exact nxtOpt
        · cases member
          exact nxtOpt
      rw [List.cons_append, parse_bare_none bare valueless.2, parse_bare_none bare valueless.1,
        ih (apart.imp_left Closed.tail), append_assoc]
  | case7 tok nxt rest opt unassigned nxtPlain ih =>
      have bare : isBare tok = true := isBare_iff.mpr ⟨opt, by simpa using unassigned⟩
      have nxtPlain : isOption nxt = false := by simpa using nxtPlain
      rw [List.cons_append, List.cons_append, parse_bare_value bare nxtPlain, parse_bare_value bare nxtPlain,
        ih (apart.imp_left fun closed => closed.tail.tail), append_assoc]
  | case8 tok nxt rest plain ih =>
      have plain : isOption tok = false := by simpa using plain
      rw [List.cons_append, parse_argument plain, parse_argument plain, ih (apart.imp_left Closed.tail),
        append_assoc]

variable {first second : List (Str × Option Str)} {name : Str}

theorem optValue_append : optValue (first ++ second) name =
    if has first name then optValue first name else optValue second name := by
  rw [optValue, List.find?_append]
  cases found : first.find? fun opt => opt.1 = name with
  | none =>
      have absent : has first name = false := by
        simpa [has, List.find?_eq_none] using found
      rw [absent]
      rfl
  | some opt =>
      have present : has first name = true :=
        List.any_eq_true.mpr ⟨opt, List.mem_of_find?_eq_some found, by simpa using List.find?_some found⟩
      rw [if_pos present, optValue, found]
      rfl

theorem optValue_cons_self (value : Option Str) : optValue ((name, value) :: second) name = value := by
  simp [optValue]

theorem optValue_cons_of_ne {other : Str} (different : other ≠ name) (value : Option Str) :
    optValue ((other, value) :: second) name = optValue second name := by
  simp [optValue, different]

end Steps

section Insertion

variable {before after : List Str} {flag : Flag}

theorem Flag.bare (flag : Flag) : isBare flag.text = true := by
  cases flag <;> rfl

/-- The command line means the same: the same positional arguments and the same values of the
other options. -/
def SameMeaning (flag : Flag) (parsed other : Parsed) : Prop :=
  parsed.positional = other.positional ∧
    ∀ name ≠ flag.text, optValue parsed.opts name = optValue other.opts name

/-- The token before the flag has swallowed the next one already, and nothing reads that value:
it is the same flag, or an option that was given a value earlier. -/
def AlreadySwallowed (before : List Str) (flag : Flag) : Prop :=
  ∃ start last, before = start ++ [last] ∧ isBare last = true ∧
    (last = flag.text ∨ has (parse start).opts last = true)

/-- Where no value can be taken, a flag is only added. -/
theorem parse_insert_valueless (valueless : Valueless after) :
    parse (before ++ flag.text :: after) = parse before ++ (option flag.text none ++ parse after) := by
  rw [parse_append (.inr (valueless_option (isBare_iff.mp flag.bare).1)), parse_bare_none flag.bare valueless]

/-- Otherwise it takes the next token. -/
theorem parse_insert_value {nxt : Str} {rest : List Str} (plain : isOption nxt = false) :
    parse (before ++ flag.text :: nxt :: rest) = parse before ++ (option flag.text (some nxt) ++ parse rest) := by
  rw [parse_append (.inr (valueless_option (isBare_iff.mp flag.bare).1)), parse_bare_value flag.bare plain]

theorem sameMeaning_of_added (first second : Parsed) (value : Option Str) :
    SameMeaning flag (first ++ (option flag.text value ++ second)) (first ++ second) := by
  refine ⟨rfl, fun name other => ?_⟩
  show optValue (first.opts ++ (flag.text, value) :: second.opts) name = optValue (first.opts ++ second.opts) name
  rw [optValue_append, optValue_append, optValue_cons_of_ne other.symm]

theorem exists_last_of_not_closed (opened : ¬ Closed before) :
    ∃ start last, before = start ++ [last] ∧ isBare last = true := by
  rcases before.eq_nil_or_concat with empty | ⟨start, last, split⟩
  · exact absurd (empty ▸ closed_nil) opened
  · refine ⟨start, last, by simpa using split, ?_⟩
    by_contra notBare
    refine opened fun other member => ?_
    rw [split, List.concat_eq_append, List.getLast?_concat] at member
    cases member
    simpa using notBare

theorem not_closed_of_bare {start : List Str} {last : Str} (bare : isBare last = true) :
    ¬ Closed (start ++ [last]) := by
  intro closed
  have notBare := closed last List.getLast?_concat
  rw [bare] at notBare
  cases notBare

/-- After an argument the flag takes the next one away. -/
theorem not_sameMeaning_of_argument {nxt : Str} {rest : List Str} (closed : Closed before)
    (plain : isOption nxt = false) :
    ¬ SameMeaning flag (parse (before ++ flag.text :: nxt :: rest)) (parse (before ++ nxt :: rest)) := by
  intro same
  have positional := same.1
  rw [parse_insert_value plain, parse_append (.inl closed), parse_argument plain] at positional
  have counts := congrArg List.length positional
  simp only [append_positional, option, argument, List.length_append, List.length_cons, List.length_nil] at counts
  omega

/-- Between an option and the token after it the flag takes the value of that option. -/
theorem sameMeaning_of_option_iff {start rest : List Str} {last nxt : Str} (bare : isBare last = true)
    (plain : isOption nxt = false) :
    SameMeaning flag (parse (start ++ [last] ++ flag.text :: nxt :: rest)) (parse (start ++ [last] ++ nxt :: rest)) ↔
      last = flag.text ∨ has (parse start).opts last = true := by
  have opt := (isBare_iff.mp bare).1
  have inserted : parse (start ++ [last] ++ flag.text :: nxt :: rest) =
      parse start ++ (option last none ++ (option flag.text (some nxt) ++ parse rest)) := by
    rw [List.append_assoc, List.singleton_append, parse_append (.inr (valueless_option opt)),
      parse_bare_none bare (valueless_option (isBare_iff.mp flag.bare).1), parse_bare_value flag.bare plain]
  have original : parse (start ++ [last] ++ nxt :: rest) =
      parse start ++ (option last (some nxt) ++ parse rest) := by
    rw [List.append_assoc, List.singleton_append, parse_append (.inr (valueless_option opt)),
      parse_bare_value bare plain]
  rw [inserted, original]
  constructor
  · intro same
    by_contra neither
    obtain ⟨other, unseen⟩ := not_or.mp neither
    have values : optValue ((parse start).opts ++ (last, none) :: (flag.text, some nxt) :: (parse rest).opts) last =
        optValue ((parse start).opts ++ (last, some nxt) :: (parse rest).opts) last := same.2 last other
    rw [optValue_append, optValue_append, if_neg unseen, if_neg unseen, optValue_cons_self,
      optValue_cons_self] at values
    cases values
  · intro swallowed
    refine ⟨rfl, fun name other => ?_⟩
    show optValue ((parse start).opts ++ (last, none) :: (flag.text, some nxt) :: (parse rest).opts) name =
      optValue ((parse start).opts ++ (last, some nxt) :: (parse rest).opts) name
    rw [optValue_append, optValue_append]
    by_cases seen : has (parse start).opts name = true
    · rw [if_pos seen, if_pos seen]
    · have different : last ≠ name := by
        rintro rfl
        exact swallowed.elim other seen
      rw [if_neg seen, if_neg seen, optValue_cons_of_ne different, optValue_cons_of_ne different,
        optValue_cons_of_ne other.symm]

/-- A flag changes nothing else exactly where no value can be taken, or where the next token was
swallowed before by an option whose value is not read. -/
theorem insert_flag_iff :
    SameMeaning flag (parse (before ++ flag.text :: after)) (parse (before ++ after)) ↔
      Valueless after ∨ AlreadySwallowed before flag := by
  by_cases valueless : Valueless after
  · simp only [valueless, true_or, iff_true]
    rw [parse_insert_valueless valueless, parse_append (.inr valueless)]
    exact sameMeaning_of_added _ _ none
  · obtain ⟨nxt, rest, split, plain⟩ : ∃ nxt rest, after = nxt :: rest ∧ isOption nxt = false := by
      cases after with
      | nil => exact absurd valueless_nil valueless
      | cons nxt rest =>
          refine ⟨nxt, rest, rfl, ?_⟩
          by_contra opt
          exact valueless (valueless_option (by simpa using opt))
    subst split
    simp only [valueless, false_or]
    by_cases closed : Closed before
    · refine iff_of_false (not_sameMeaning_of_argument closed plain) ?_
      intro ⟨start, last, split, bare, _⟩
      exact not_closed_of_bare bare (split ▸ closed)
    · obtain ⟨start, last, split, bare⟩ := exists_last_of_not_closed closed
      subst split
      rw [sameMeaning_of_option_iff bare plain]
      constructor
      · intro swallowed
        exact ⟨start, last, rfl, bare, swallowed⟩
      · intro ⟨start', last', split, _, swallowed⟩
        obtain ⟨sameStart, sameLast⟩ := List.append_inj' split rfl
        cases sameLast
        rw [sameStart]
        exact swallowed

/-- A leading flag takes the command for its value. -/
theorem flag_swallows_command :
    parse ["diagnose"] = ⟨[], ["diagnose"]⟩ ∧
      parse [Flag.text .json, "diagnose"] = ⟨[(Flag.text .json, some "diagnose")], []⟩ := by
  decide

end Insertion

end DongleRescue.Cli
