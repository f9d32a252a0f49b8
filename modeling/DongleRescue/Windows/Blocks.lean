import DongleRescue.Data.Lines
import DongleRescue.Windows.EnumPs

namespace DongleRescue.Windows

open DongleRescue.Data

/-! Two texts with a blank line between them are parsed each by itself, and one problem code that
`int` refuses takes the devices of both away. -/

section Blank

variable [Interpreter] {toUpper : Str → Str} {line : Str} {earlier : List WindowsDevice} {state : Parsing}

def Parsing.after (earlier : List WindowsDevice) (state : Parsing) : Parsing :=
  { state with devices := earlier ++ state.devices }

omit [Interpreter] in
theorem flush_after : (state.after earlier).flush = state.flush.after earlier := by
  rcases state with ⟨devices, _ | current⟩
  · rfl
  · by_cases named : current.instanceId ≠ []
    · simp [Parsing.flush, Parsing.after, named]
    · simp [Parsing.flush, Parsing.after, named]

theorem readLine_after :
    readLine toUpper (state.after earlier) line = Parsing.after earlier <$> readLine toUpper state line := by
  have reads : Reads toUpper state line (readLine toUpper state line) := readLine_reads
  generalize readLine toUpper state line = result at reads ⊢
  cases reads with
  | blank blank =>
      rw [readLine_blank blank, flush_after]
      rfl
  | garbage solid garbage =>
      rw [readLine_garbage solid garbage]
      rfl
  | opens field =>
      rw [readLine_instance field, flush_after]
      rfl
  | closed field other closed =>
      have still : (state.after earlier).current = none := closed
      rw [readLine_closed field other still]
      rfl
  | @assigns key value current field other opened =>
      have still : (state.after earlier).current = some current := opened
      rw [readLine_assign field other still]
      cases current.assign toUpper key value with
      | error failure => rfl
      | ok assigned => rfl

/-- The devices that were read before do not show in what is read next. -/
theorem foldlM_after (lines : List Str) : lines.foldlM (readLine toUpper) (state.after earlier) =
    Parsing.after earlier <$> lines.foldlM (readLine toUpper) state := by
  induction lines generalizing state with
  | nil => rfl
  | cons line lines ih =>
      rw [List.foldlM_cons, List.foldlM_cons, readLine_after]
      cases readLine toUpper state line with
      | error failure => rfl
      | ok next => exact ih

omit [Interpreter] in
theorem flush_eq_after : state.flush = Parsing.after state.flush.devices ⟨[], none⟩ :=
  congrArg (Parsing.mk · none) (List.append_nil _).symm

theorem foldlM_blanks (n : ℕ) :
    (List.replicate (n + 1) []).foldlM (readLine toUpper) state = .ok state.flush := by
  have blank : IsBlank [] := rfl
  induction n generalizing state with
  | zero =>
      rw [List.replicate_one, List.foldlM_cons, readLine_blank blank]
      rfl
  | succ n ih =>
      rw [List.replicate_succ, List.foldlM_cons, readLine_blank blank]
      exact ih

theorem parseLines_append_blank (first second : List Str) (n : ℕ) :
    parseLines toUpper (first ++ List.replicate (n + 1) [] ++ second) = do
      let devices ← parseLines toUpper first
      let devices' ← parseLines toUpper second
      return devices ++ devices' := by
  unfold parseLines
  rw [List.foldlM_append, List.foldlM_append]
  cases first.foldlM (readLine toUpper) ⟨[], none⟩ with
  | error failure => rfl
  | ok state =>
      have blanks : (Except.ok state >>= fun state => (List.replicate (n + 1) []).foldlM (readLine toUpper) state) =
          .ok state.flush := foldlM_blanks n
      rw [blanks]
      change (second.foldlM (readLine toUpper) state.flush >>= fun last => .ok last.flush.devices) = _
      rw [flush_eq_after, foldlM_after]
      cases second.foldlM (readLine toUpper) ⟨[], none⟩ with
      | error failure => rfl
      | ok last => exact congrArg (Except.ok ·.devices) flush_after

theorem parsePnputilOutput_append (first second : Str) :
    parsePnputilOutput toUpper (first ++ '\n' :: '\n' :: second) = do
      let devices ← parsePnputilOutput toUpper first
      let devices' ← parsePnputilOutput toUpper second
      return devices ++ devices' := by
  obtain ⟨n, split⟩ := splitlines_append_blank first second
  unfold parsePnputilOutput
  rw [split]
  exact parseLines_append_blank _ _ n

end Blank

def Opens (line : Str) : Prop := ∃ value, fieldOf line = some (("Instance ID" : Str), value)

/-- An instance id was read, and no blank line since. -/
def Opened (lines : List Str) : Prop :=
  ∃ front line between, lines = front ++ line :: between ∧ Opens line ∧ ∀ later ∈ between, ¬ IsBlank later

/-- Every problem code of an open device has no more digits than `int` takes. -/
def Legible [Interpreter] (lines : List Str) : Prop :=
  ∀ before line, before ++ [line] <+: lines → Opened before →
    ∀ value, fieldOf line = some (("Problem Code" : Str), value) → (digitsOf value).length ≤ 4300

section Reading

variable {lines : List Str} {line key value : Str} {state next : Parsing} {current : Current}

theorem not_opens_of_field (field : fieldOf line = some (key, value)) (other : key ≠ "Instance ID") : ¬ Opens line := by
  rintro ⟨value', field'⟩
  rw [field] at field'
  exact other (congrArg Prod.fst (Option.some.inj field'))

theorem not_opened_nil : ¬ Opened [] := by
  rintro ⟨front, line, between, split, _⟩
  simp at split

theorem opened_concat : Opened (lines ++ [line]) ↔ Opens line ∨ Opened lines ∧ ¬ IsBlank line := by
  constructor
  · rintro ⟨front, opening, between, split, opens, solid⟩
    cases between using List.reverseRecOn with
    | nil =>
        have same : lines ++ [line] = front ++ [opening] := split
        obtain ⟨rfl, rfl⟩ := List.append_singleton_inj.mp same
        exact .inl opens
    | append_singleton between last =>
        have same : lines ++ [line] = (front ++ opening :: between) ++ [last] := by
          rw [split, List.append_assoc, List.cons_append]
        obtain ⟨rfl, rfl⟩ := List.append_singleton_inj.mp same
        rw [List.forall_mem_append] at solid
        exact .inr ⟨⟨front, opening, between, rfl, opens, solid.1⟩, solid.2 line (List.mem_singleton_self _)⟩
  · rintro (opens | ⟨⟨front, opening, between, rfl, opens, solid⟩, solidLine⟩)
    · exact ⟨lines, line, [], rfl, opens, fun later member => absurd member List.not_mem_nil⟩
    · refine ⟨front, opening, between ++ [line], by rw [List.append_assoc, List.cons_append], opens, ?_⟩
      exact List.forall_mem_append.mpr ⟨solid, by simpa using solidLine⟩

variable [Interpreter] {toUpper : Str → Str}

theorem legible_nil : Legible [] := by
  intro before line within
  simp at within

theorem legible_concat : Legible (lines ++ [line]) ↔ Legible lines ∧
    (Opened lines → ∀ value, fieldOf line = some (("Problem Code" : Str), value) → (digitsOf value).length ≤ 4300) := by
  constructor
  · intro legible
    refine ⟨fun before earlier within => ?_, fun opened => ?_⟩
    · exact legible before earlier (within.trans (List.prefix_append lines [line]))
    · exact legible lines line (List.prefix_refl _) opened
  · rintro ⟨legible, last⟩ before earlier within opened
    rcases List.prefix_concat_iff.mp within with whole | inside
    · obtain ⟨rfl, rfl⟩ := List.append_singleton_inj.mp whole
      exact last opened
    · exact legible before earlier inside opened

theorem problemCode_returns_iff :
    (∃ code, problemCode value = .ok code) ↔ (digitsOf value).length ≤ 4300 := by
  by_cases none : digitsOf value = []
  · simp [problemCode, none]
  · rw [problemCode, if_neg none, intOfDecimal]
    by_cases short : (digitsOf value).length ≤ 4300
    · rw [if_pos short]
      exact ⟨fun _ => short, fun _ => ⟨_, rfl⟩⟩
    · rw [if_neg short]
      refine ⟨fun returned => ?_, fun short' => absurd short' short⟩
      obtain ⟨code, result⟩ := returned
      cases result

theorem assign_problem : current.assign toUpper "Problem Code" value =
    (fun problem => { current with problem }) <$> problemCode value := rfl

theorem assign_other (other : key ≠ "Problem Code") : ∃ assigned, current.assign toUpper key value = .ok assigned := by
  unfold Current.assign
  rw [if_neg other]
  split_ifs
  all_goals exact ⟨_, rfl⟩

/-- Of the fields of a device only the problem code can fail. -/
theorem assign_returns_iff : (∃ assigned, current.assign toUpper key value = .ok assigned) ↔
    (key = "Problem Code" → (digitsOf value).length ≤ 4300) := by
  by_cases problem : key = "Problem Code"
  · subst problem
    rw [assign_problem, map_returns_iff, problemCode_returns_iff]
    exact ⟨fun short _ => short, fun short => short rfl⟩
  · exact iff_of_true (assign_other problem) fun same => absurd same problem

theorem readLine_returns_iff : (∃ next, readLine toUpper state line = .ok next) ↔
    (state.current.isSome = true →
      ∀ value, fieldOf line = some (("Problem Code" : Str), value) → (digitsOf value).length ≤ 4300) := by
  have reads : Reads toUpper state line (readLine toUpper state line) := readLine_reads
  generalize readLine toUpper state line = result at reads ⊢
  cases reads with
  | blank blank => exact iff_of_true ⟨_, rfl⟩ fun _ value field => absurd blank (not_isBlank_of_fieldOf field)
  | garbage solid garbage =>
      refine iff_of_true ⟨_, rfl⟩ fun _ value field => ?_
      rw [garbage] at field
      cases field
  | opens opening =>
      refine iff_of_true ⟨_, rfl⟩ fun _ value field => ?_
      have keys : ("Instance ID" : Str) = "Problem Code" := congrArg Prod.fst (Option.some.inj (opening.symm.trans field))
      exact absurd keys (by decide)
  | closed field other closed =>
      refine iff_of_true ⟨_, rfl⟩ fun opened => ?_
      rw [closed] at opened
      cases opened
  | assigns field other opened =>
      rw [map_returns_iff, assign_returns_iff, opened]
      constructor
      · intro short _ value' field'
        obtain ⟨named, rfl⟩ := Prod.mk.inj (Option.some.inj (field.symm.trans field'))
        exact short named
      · intro short named
        exact short rfl _ (by rw [field, named])

theorem readLine_opened (result : readLine toUpper state line = .ok next) :
    next.current.isSome = true ↔ Opens line ∨ state.current.isSome = true ∧ ¬ IsBlank line := by
  have reads : Reads toUpper state line (readLine toUpper state line) := readLine_reads
  rw [result] at reads
  generalize returned : Except.ok next = outcome at reads
  cases reads with
  | blank blank =>
      have closed : ¬ Opens line := fun ⟨value, field⟩ => not_isBlank_of_fieldOf field blank
      simp [Except.ok.inj returned, blank, closed, Parsing.flush]
  | garbage solid garbage => simp [Except.ok.inj returned, solid, Opens, garbage]
  | @opens value field =>
      rw [Except.ok.inj returned]
      exact iff_of_true rfl (.inl ⟨value, field⟩)
  | closed field other closed => simp [Except.ok.inj returned, closed, not_opens_of_field field other]
  | assigns field other opened =>
      obtain ⟨assigned, _, rfl⟩ := map_ok_iff.mp returned.symm
      simp [opened, not_isBlank_of_fieldOf field]

theorem foldlM_opened (result : lines.foldlM (readLine toUpper) ⟨[], none⟩ = .ok state) :
    state.current.isSome = true ↔ Opened lines := by
  induction lines using List.reverseRecOn generalizing state with
  | nil =>
      cases result
      exact iff_of_false Bool.false_ne_true not_opened_nil
  | append_singleton lines line ih =>
      rw [List.foldlM_append] at result
      obtain ⟨before, ran, last⟩ := bind_ok result
      have step : readLine toUpper before line = .ok state := by
        simpa only [List.foldlM_cons, List.foldlM_nil, bind_pure] using last
      rw [readLine_opened step, opened_concat, ih ran]

theorem foldlM_returns_iff :
    (∃ state, lines.foldlM (readLine toUpper) ⟨[], none⟩ = .ok state) ↔ Legible lines := by
  induction lines using List.reverseRecOn with
  | nil => exact iff_of_true ⟨_, rfl⟩ legible_nil
  | append_singleton lines line ih =>
      rw [legible_concat, ← ih]
      simp only [List.foldlM_append, List.foldlM_cons, List.foldlM_nil, bind_pure]
      constructor
      · rintro ⟨state, result⟩
        obtain ⟨before, ran, last⟩ := bind_ok result
        rw [← foldlM_opened ran]
        exact ⟨⟨before, ran⟩, readLine_returns_iff.mp ⟨state, last⟩⟩
      · rintro ⟨⟨before, ran⟩, last⟩
        rw [← foldlM_opened ran] at last
        rw [ran]
        exact readLine_returns_iff.mpr last

theorem parseLines_returns_iff : (∃ devices, parseLines toUpper lines = .ok devices) ↔ Legible lines := by
  rw [← @foldlM_returns_iff _ _ toUpper]
  constructor
  · rintro ⟨devices, result⟩
    obtain ⟨state, ran, _⟩ := bind_ok result
    exact ⟨state, ran⟩
  · rintro ⟨state, ran⟩
    refine ⟨state.flush.devices, ?_⟩
    rw [parseLines, ran]
    rfl

end Reading

section Texts

variable [Interpreter] {toUpper : Str → Str} {first second : Str}

/-- Both texts are parsed, and the text of both gives the devices of the first and then those of the second. -/
def Concatenates (toUpper : Str → Str) (first second : Str) : Prop :=
  ∃ devices devices', parsePnputilOutput toUpper first = .ok devices ∧
    parsePnputilOutput toUpper second = .ok devices' ∧
    parsePnputilOutput toUpper (first ++ '\n' :: '\n' :: second) = .ok (devices ++ devices')

/-- The devices are those of both texts exactly when `int` takes every problem code in them. -/
theorem concatenates_iff :
    Concatenates toUpper first second ↔ Legible (splitlines first) ∧ Legible (splitlines second) := by
  rw [← @parseLines_returns_iff _ _ toUpper, ← @parseLines_returns_iff _ _ toUpper]
  constructor
  · rintro ⟨devices, devices', parsed, parsed', _⟩
    exact ⟨⟨devices, parsed⟩, ⟨devices', parsed'⟩⟩
  · rintro ⟨⟨devices, parsed⟩, ⟨devices', parsed'⟩⟩
    refine ⟨devices, devices', parsed, parsed', ?_⟩
    have parsed : parsePnputilOutput toUpper first = .ok devices := parsed
    have parsed' : parsePnputilOutput toUpper second = .ok devices' := parsed'
    rw [parsePnputilOutput_append, parsed, parsed']
    rfl

end Texts

/-- A problem code of 4301 digits. -/
def hostileBlock : Str :=
  "Instance ID:\t\t\t USB\\VID_0BDA&PID_8811\\1\nProblem Code:\t\t\t " ++ List.replicate 4301 '9'

def nextBlock : Str := "Instance ID:\t\t\t USB\\VID_148F&PID_7601\\2\nStatus:\t\t\t OK\n"

def nextDevice : WindowsDevice where
  instanceId := some "USB\\VID_148F&PID_7601\\2"
  description := none
  hardwareIds := []
  compatibleIds := []
  problemCode := none
  status := some "OK"

theorem hostile_block_takes_next : @parsePnputilOutput asciiInterpreter upper nextBlock = .ok [nextDevice] ∧
    (∃ failure, @parsePnputilOutput asciiInterpreter upper (hostileBlock ++ '\n' :: '\n' :: nextBlock) = .error failure) ∧
    ¬ @Concatenates asciiInterpreter upper hostileBlock nextBlock := by
  let _ : Interpreter := asciiInterpreter
  have fails : parsePnputilOutput upper hostileBlock =
      .error (.valueError ("Exceeds the limit (4300 digits) for integer string conversion: value has 4301 digits; " ++
        "use sys.set_int_max_str_digits() to increase the limit")) := by
    decide +kernel
  refine ⟨by decide +kernel, ?_, ?_⟩
  · rw [parsePnputilOutput_append, fails]
    exact ⟨_, rfl⟩
  · rintro ⟨devices, _, parsed, _⟩
    rw [fails] at parsed
    cases parsed

end DongleRescue.Windows
