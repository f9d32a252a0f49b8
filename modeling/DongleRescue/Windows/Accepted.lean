import DongleRescue.Data.Words
import DongleRescue.Windows.RoundTrip

namespace DongleRescue.Windows

open DongleRescue.Data

/-! What the parser returns, for any text: every device can be printed, and its printed form is read
as the same device again. -/

/-- `str.upper` by the characters of a text: each is replaced for itself, white space stays, and what
replaces a character is upper case already. -/
structure UpperLaws (toUpper : Char → Str) : Prop where
  nonempty : ∀ c, toUpper c ≠ []
  space : ∀ c, isSpace c = true → toUpper c = [c]
  solid : ∀ c, isSpace c = false → ∀ d ∈ toUpper c, isSpace d = false
  stable : ∀ c, ∀ d ∈ toUpper c, toUpper d = [d]

def uppered (toUpper : Char → Str) (text : Str) : Str := text.flatMap toUpper

section Upper

variable {toUpper : Char → Str} {text part value : Str} (laws : UpperLaws toUpper)
include laws

theorem uppered_uppered (text : Str) : uppered toUpper (uppered toUpper text) = uppered toUpper text := by
  have kept : ∀ c, (toUpper c).flatMap toUpper = toUpper c := by
    intro c
    rw [List.flatMap_congr (laws.stable c)]
    exact List.flatMap_singleton' _
  rw [uppered, uppered, List.flatMap_assoc]
  exact List.flatMap_congr fun c _ => kept c

theorem uppered_ne_nil (nonempty : text ≠ []) : uppered toUpper text ≠ [] := by
  obtain ⟨c, rest, rfl⟩ := List.exists_cons_of_ne_nil nonempty
  simp [uppered, laws.nonempty c]

theorem uppered_head (first : ∀ c ∈ text.head?, isSpace c = false) :
    ∀ d ∈ (uppered toUpper text).head?, isSpace d = false := by
  cases text with
  | nil => exact fun d absent => (nomatch absent)
  | cons c rest =>
      intro d member
      rw [uppered, List.flatMap_cons, List.head?_append_of_ne_nil _ (laws.nonempty c)] at member
      exact laws.solid c (first c rfl) d (List.mem_of_mem_head? member)

theorem uppered_last (last : ∀ c ∈ text.getLast?, isSpace c = false) :
    ∀ d ∈ (uppered toUpper text).getLast?, isSpace d = false := by
  induction text using List.reverseRecOn with
  | nil => exact fun d absent => (nomatch absent)
  | append_singleton text c _ =>
      intro d member
      rw [uppered, List.flatMap_append, List.flatMap_singleton,
        List.getLast?_append_of_ne_nil _ (laws.nonempty c)] at member
      exact laws.solid c (last c List.getLast?_concat) d (List.mem_of_mem_getLast? member)

/-- White space in the upper-case text was there before. -/
theorem mem_of_isSpace {d : Char} (member : d ∈ uppered toUpper text) (space : isSpace d = true) : d ∈ text := by
  obtain ⟨c, inText, inside⟩ := List.mem_flatMap.mp member
  cases spaced : isSpace c with
  | true =>
      rw [laws.space c spaced, List.mem_singleton] at inside
      exact inside ▸ inText
  | false =>
      rw [laws.solid c spaced d inside] at space
      cases space

end Upper

/-- An id as it is kept: trimmed, upper case, without the blank that separates ids. -/
structure IsEntry (toUpper : Str → Str) (id : Str) : Prop where
  nonempty : id ≠ []
  value : IsValue id
  whole : ' ' ∉ id
  uppercase : toUpper id = id

structure Accepted (toUpper : Str → Str) (device : WindowsDevice) : Prop where
  instanceId : ∃ id, device.instanceId = some id ∧ id ≠ [] ∧ IsValue id
  description : ∀ text ∈ device.description, IsValue text
  status : ∀ text ∈ device.status, IsValue text
  hardwareIds : ∀ id ∈ device.hardwareIds, IsEntry toUpper id
  compatibleIds : ∀ id ∈ device.compatibleIds, IsEntry toUpper id
  problemCode : ∀ code ∈ device.problemCode, 0 ≤ code ∧ (decimal code.toNat).length ≤ 4300

/-- The same of a device whose block is not read to its end. -/
structure Current.Accepted (toUpper : Str → Str) (current : Current) : Prop where
  instanceId : IsValue current.instanceId
  description : ∀ text ∈ current.description, IsValue text
  status : ∀ text ∈ current.status, IsValue text
  hwids : ∀ id ∈ current.hwids.getD [], IsEntry toUpper id
  compats : ∀ id ∈ current.compats.getD [], IsEntry toUpper id
  problem : ∀ code ∈ current.problem, 0 ≤ code ∧ (decimal code.toNat).length ≤ 4300

structure Parsing.Accepted (toUpper : Str → Str) (state : Parsing) : Prop where
  devices : ∀ device ∈ state.devices, Windows.Accepted toUpper device
  current : ∀ current ∈ state.current, current.Accepted toUpper

/-- A number has no more digits than were read. -/
theorem foldl_digits_lt {digits : List ℕ} (value : ℕ) (small : ∀ digit ∈ digits, digit < 10) :
    digits.foldl (fun value digit => value * 10 + digit) value < (value + 1) * Nat.pow 10 digits.length := by
  induction digits generalizing value with
  | nil => simp
  | cons digit digits ih =>
      rw [List.forall_mem_cons] at small
      have next := ih (value * 10 + digit) small.2
      have room : value * 10 + digit + 1 ≤ (value + 1) * 10 := by omega
      have scaled := Nat.mul_le_mul_right (Nat.pow 10 digits.length) room
      have power : Nat.pow 10 (digit :: digits).length = 10 * Nat.pow 10 digits.length := by
        rw [List.length_cons, Nat.pow_eq, Nat.pow_eq, Nat.pow_succ, Nat.mul_comm]
      rw [List.foldl_cons, power, ← Nat.mul_assoc]
      omega

section Fields

variable {toUpper : Char → Str} {text value line key : Str} {current : Current} {state : Parsing}

theorem isValue_strip (oneLine : OneLine text) : IsValue (strip text) := by
  obtain ⟨before, trailing, split, _, _⟩ := exists_eq_stripWhile isSpace text
  refine ⟨stripWhile_stripWhile isSpace text, fun c member => oneLine c ?_⟩
  rw [split]
  exact List.mem_append_right _ (List.mem_append_left _ member)

theorem isValue_of_fieldOf (oneLine : OneLine line) (field : fieldOf line = some (key, value)) : IsValue value := by
  obtain ⟨⟨key', value'⟩, found, same⟩ := Option.map_eq_some_iff.mp field
  obtain ⟨rfl, rfl⟩ := Prod.mk.inj same
  rw [rstripNewlines_of_oneLine oneLine] at found
  obtain ⟨tabbed, split, rfl, _, _⟩ := matchField_eq_some_iff.mp found
  refine isValue_strip fun c member => oneLine c ?_
  rw [split]
  exact List.mem_append_right _ (List.mem_cons_of_mem _ (List.mem_cons_of_mem _ (List.dropWhile_subset _ member)))

/-- An id is upper case once its white space is stripped. -/
theorem isEntry_normHwid (laws : UpperLaws toUpper) (oneLine : OneLine text) (whole : ' ' ∉ text)
    (solid : strip text ≠ []) : IsEntry (uppered toUpper) (normHwid (uppered toUpper) text) := by
  obtain ⟨first, last⟩ := stripWhile_ends isSpace text
  obtain ⟨before, trailing, split, _, _⟩ := exists_eq_stripWhile isSpace text
  have inside : ∀ c ∈ strip text, c ∈ text := by
    intro c member
    rw [split]
    exact List.mem_append_right _ (List.mem_append_left _ member)
  refine ⟨uppered_ne_nil laws solid, ⟨stripWhile_eq_self (uppered_head laws first) (uppered_last laws last), ?_⟩, ?_,
    uppered_uppered laws _⟩
  · intro d member
    by_contra ends
    have breaks : isLineBreak d = true := by simpa using ends
    have kept := oneLine d (inside d (mem_of_isSpace laws member (isSpace_of_isLineBreak breaks)))
    exact ends kept
  · intro member
    exact whole (inside ' ' (mem_of_isSpace laws member (by decide)))

theorem isEntry_normHwids (laws : UpperLaws toUpper) (oneLine : OneLine value) :
    ∀ id ∈ normHwids (uppered toUpper) value, IsEntry (uppered toUpper) id := by
  intro id member
  obtain ⟨part, inParts, rfl⟩ := List.mem_map.mp member
  obtain ⟨inSplit, solid⟩ := List.mem_filter.mp inParts
  have plain := separates_eq_false_of_mem_splitOnP inSplit
  have inside := subset_of_mem_splitOnP inSplit
  refine isEntry_normHwid laws (fun c found => oneLine c (inside c found)) ?_ (by simpa using solid)
  intro blank
  have separated := plain ' ' blank
  exact absurd separated (by decide)

theorem Current.Accepted.device (accepted : current.Accepted (uppered toUpper)) (named : current.instanceId ≠ []) :
    Windows.Accepted (uppered toUpper) current.device where
  instanceId := ⟨_, rfl, named, accepted.instanceId⟩
  description := accepted.description
  status := accepted.status
  hardwareIds := accepted.hwids
  compatibleIds := accepted.compats
  problemCode := accepted.problem

theorem Parsing.Accepted.flush (accepted : state.Accepted (uppered toUpper)) : state.flush.Accepted (uppered toUpper) := by
  refine ⟨?_, fun current absent => (nomatch absent)⟩
  rw [Parsing.flush]
  cases opened : state.current with
  | none => exact accepted.devices
  | some current =>
      by_cases named : current.instanceId ≠ []
      · simp only [if_pos named]
        exact List.forall_mem_append.mpr ⟨accepted.devices,
          List.forall_mem_singleton.mpr ((accepted.current current opened).device named)⟩
      · simp only [if_neg named]
        exact accepted.devices

end Fields

section Lines

variable [Interpreter] {toUpper : Char → Str} {value line key : Str} {current next : Current}
  {state after : Parsing} {code : Option Int} {devices : List WindowsDevice}

theorem lt_ten_of_mem_digitsOf : ∀ digit ∈ digitsOf value, digit < 10 := by
  intro digit member
  obtain ⟨c, _, inside⟩ := List.mem_flatMap.mp member
  exact lt_ten_of_mem_takeDecimal digit inside

theorem problemCode_fits (read : problemCode value = .ok code) :
    ∀ number ∈ code, 0 ≤ number ∧ (decimal number.toNat).length ≤ 4300 := by
  rw [problemCode] at read
  split at read
  · cases read
    intro number absent
    cases absent
  · rename_i nonempty
    obtain ⟨number, converted, rfl⟩ := map_ok_iff.mp read
    intro number' same
    cases same
    rw [intOfDecimal] at converted
    split at converted
    · rename_i short
      cases converted
      have bound := @foldl_digits_lt (digitsOf value) 0 lt_ten_of_mem_digitsOf
      rw [Nat.zero_add, Nat.one_mul] at bound
      have fits := (Nat.length_toDigits_le_iff (by decide : 1 < 10) (List.length_pos_iff.mpr nonempty)).mpr bound
      exact ⟨Int.natCast_nonneg _, fits.trans short⟩
    · cases converted

theorem Current.Accepted.set (laws : UpperLaws toUpper) (accepted : current.Accepted (uppered toUpper)) (isValue : IsValue value)
    {field : Field} (set : current.set (uppered toUpper) value field = .ok next) : next.Accepted (uppered toUpper) := by
  cases field with
  | description =>
      cases set
      exact { accepted with description := fun text same => Option.some.inj same ▸ isValue }
  | status =>
      cases set
      exact { accepted with status := fun text same => Option.some.inj same ▸ isValue }
  | problemCode =>
      obtain ⟨code, read, rfl⟩ := map_ok_iff.mp set
      exact { accepted with problem := problemCode_fits read }
  | hardwareIds =>
      cases set
      exact { accepted with hwids := isEntry_normHwids laws isValue.oneLine }
  | compatibleIds =>
      cases set
      exact { accepted with compats := isEntry_normHwids laws isValue.oneLine }

theorem Current.Accepted.assign (laws : UpperLaws toUpper) (accepted : current.Accepted (uppered toUpper))
    (isValue : IsValue value) (assigned : current.assign (uppered toUpper) key value = .ok next) :
    next.Accepted (uppered toUpper) := by
  by_cases known : ∃ field : Field, key = field.name
  · obtain ⟨field, rfl⟩ := known
    rw [assign_name] at assigned
    exact accepted.set laws isValue assigned
  · rw [assign_unknown fun field same => known ⟨field, same⟩] at assigned
    cases assigned
    exact accepted

theorem Parsing.Accepted.readLine (laws : UpperLaws toUpper) (accepted : state.Accepted (uppered toUpper))
    (oneLine : OneLine line) (read : readLine (uppered toUpper) state line = .ok after) :
    after.Accepted (uppered toUpper) := by
  have reads : Reads (uppered toUpper) state line (Windows.readLine (uppered toUpper) state line) := readLine_reads
  rw [read] at reads
  generalize result : (Except.ok after : Py Parsing) = ran at reads
  cases reads with
  | blank _ =>
      cases result
      exact accepted.flush
  | garbage _ _ =>
      cases result
      exact accepted
  | opens field =>
      cases result
      refine ⟨accepted.flush.devices, fun current opened => ?_⟩
      cases opened
      exact ⟨isValue_of_fieldOf oneLine field, fun _ absent => (nomatch absent), fun _ absent => (nomatch absent),
        fun _ absent => (nomatch absent), fun _ absent => (nomatch absent), fun _ absent => (nomatch absent)⟩
  | closed _ _ _ =>
      cases result
      exact accepted
  | assigns field _ opened =>
      obtain ⟨next, assigned, rfl⟩ := map_ok_iff.mp result.symm
      refine ⟨accepted.devices, fun current same => ?_⟩
      cases same
      exact (accepted.current _ opened).assign laws (isValue_of_fieldOf oneLine field) assigned

theorem Parsing.Accepted.foldlM (laws : UpperLaws toUpper) (accepted : state.Accepted (uppered toUpper))
    {lines : List Str} (oneLine : ∀ line ∈ lines, OneLine line)
    (ran : lines.foldlM (Windows.readLine (uppered toUpper)) state = .ok after) : after.Accepted (uppered toUpper) := by
  induction lines generalizing state with
  | nil =>
      cases ran
      exact accepted
  | cons line lines ih =>
      rw [List.forall_mem_cons] at oneLine
      rw [List.foldlM_cons] at ran
      obtain ⟨next, read, ran⟩ := bind_ok ran
      exact ih (accepted.readLine laws oneLine.1 read) oneLine.2 ran

theorem parse_accepted (laws : UpperLaws toUpper) {text : Str}
    (parsed : parsePnputilOutput (uppered toUpper) text = .ok devices) :
    ∀ device ∈ devices, Accepted (uppered toUpper) device := by
  obtain ⟨state, ran, returned⟩ := bind_ok parsed
  cases returned
  have start : Parsing.Accepted (uppered toUpper) ⟨[], none⟩ :=
    ⟨List.forall_mem_nil _, fun current absent => (nomatch absent)⟩
  exact (start.foldlM laws oneLine_of_mem_splitlines ran).flush.devices

end Lines

/-- No id holds white space, whatever kind. -/
def SolidIds (devices : List WindowsDevice) : Prop :=
  ∀ device ∈ devices, ∀ id ∈ device.hardwareIds ++ device.compatibleIds, ∀ c ∈ id, isSpace c = false

section Printing

variable {toUpper : Str → Str} {device : WindowsDevice} {devices : List WindowsDevice}

theorem Accepted.printable (accepted : Accepted toUpper device)
    (solid : ∀ id ∈ device.hardwareIds ++ device.compatibleIds, ∀ c ∈ id, isSpace c = false) :
    Printable toUpper device := by
  obtain ⟨hardware, compatible⟩ := List.forall_mem_append.mp solid
  have isId : ∀ id, IsEntry toUpper id → (∀ c ∈ id, isSpace c = false) → IsId toUpper id :=
    fun id entry solid => ⟨entry.nonempty, solid, entry.uppercase⟩
  exact ⟨accepted.instanceId, accepted.description, accepted.status,
    fun id member => isId id (accepted.hardwareIds id member) (hardware id member),
    fun id member => isId id (accepted.compatibleIds id member) (compatible id member),
    fun code found => (accepted.problemCode code found).1⟩

theorem exists_prints {id : Str} (named : device.instanceId = some id) : ∃ lines, Prints device lines := by
  refine ⟨_, id, fieldLine 0 "Instance ID" id, presentFields device,
    (presentFields device).map fun field => fieldLine 0 field.1.name field.2, named, ⟨0, rfl⟩, List.Perm.refl _, ?_, rfl⟩
  rw [List.forall₂_map_right_iff]
  exact List.forall₂_same.mpr fun field _ => ⟨0, rfl⟩

theorem exists_renders (named : ∀ device ∈ devices, ∃ id, device.instanceId = some id) :
    ∃ lines, Renders devices lines := by
  have blocks : ∃ blocks, List.Forall₂ Prints devices blocks := by
    induction devices with
    | nil => exact ⟨[], .nil⟩
    | cons device devices ih =>
        rw [List.forall_mem_cons] at named
        obtain ⟨id, here⟩ := named.1
        obtain ⟨lines, prints⟩ := exists_prints here
        obtain ⟨blocks, later⟩ := ih named.2
        exact ⟨lines :: blocks, .cons prints later⟩
  obtain ⟨blocks, prints⟩ := blocks
  exact ⟨_, blocks, prints, rfl⟩

end Printing

section Results

variable [Interpreter] {toUpper : Char → Str} {devices : List WindowsDevice}

theorem parse_renders (accepted : ∀ device ∈ devices, Accepted (uppered toUpper) device) (solid : SolidIds devices)
    {lines : List Str} {newline : Str} (renders : Renders devices lines) (ends : IsNewline newline) :
    parsePnputilOutput (uppered toUpper) (endLines newline lines) = .ok devices := by
  have printable : ∀ device ∈ devices, Printable (uppered toUpper) device :=
    fun device member => (accepted device member).printable (solid device member)
  have kept := oneLine_renders printable renders
  obtain ⟨blocks, prints, rfl⟩ := renders
  rw [parsePnputilOutput, splitlines_endLines ends kept]
  exact (parseLines_eq_iff printable prints).mpr fun device member code found =>
    ((accepted device member).problemCode code found).2

/-- Any text, garbage included, is read as devices of one form; without white space inside ids these are
all devices of that form, and what was read once is read again from any printing of it. -/
theorem parse_print_parse (laws : UpperLaws toUpper) (devices : List WindowsDevice) :
    (∀ text, parsePnputilOutput (uppered toUpper) text = .ok devices →
        ∀ device ∈ devices, Accepted (uppered toUpper) device) ∧
      (SolidIds devices →
        ((∃ text, parsePnputilOutput (uppered toUpper) text = .ok devices) ↔
          ∀ device ∈ devices, Accepted (uppered toUpper) device) ∧
        ∀ text lines newline, parsePnputilOutput (uppered toUpper) text = .ok devices → Renders devices lines →
          IsNewline newline → parsePnputilOutput (uppered toUpper) (endLines newline lines) = .ok devices) := by
  refine ⟨fun text parsed => parse_accepted laws parsed, fun solid => ⟨⟨?_, fun accepted => ?_⟩, ?_⟩⟩
  · rintro ⟨text, parsed⟩
    exact parse_accepted laws parsed
  · obtain ⟨lines, renders⟩ := exists_renders fun device member =>
      (accepted device member).instanceId.imp fun id parts => parts.1
    exact ⟨_, parse_renders accepted solid renders (.inl rfl)⟩
  · intro text lines newline parsed renders ends
    exact parse_renders (parse_accepted laws parsed) solid renders ends

end Results

def upperLetter (c : Char) : Str := [c.toUpper]

theorem toUpper_cases (c : Char) : c.isAlphanum = true ∧ c.toUpper.isAlphanum = true ∧ c.toUpper.toUpper = c.toUpper ∨
    c.toUpper = c := by
  by_cases lower : 'a'.val ≤ c.val ∧ c.val ≤ 'z'.val
  · left
    have letter : c ∈ ("abcdefghijklmnopqrstuvwxyz" : Str) := by
      have places : ∀ n < 26, Char.ofNat (97 + n) ∈ ("abcdefghijklmnopqrstuvwxyz" : Str) := by decide
      have first : 97 ≤ c.toNat := lower.1
      have last : c.toNat ≤ 122 := lower.2
      have here := places (c.toNat - 97) (by omega)
      rwa [Nat.add_sub_cancel' first, Char.ofNat_toNat] at here
    have all : ∀ d ∈ ("abcdefghijklmnopqrstuvwxyz" : Str),
        d.isAlphanum = true ∧ d.toUpper.isAlphanum = true ∧ d.toUpper.toUpper = d.toUpper := by decide
    exact all c letter
  · exact .inr (dif_neg lower)

theorem upperLaws_upperLetter : UpperLaws upperLetter where
  nonempty c := List.cons_ne_nil _ _
  space c space := by
    rcases toUpper_cases c with ⟨letter, _, _⟩ | same
    · rw [isSpace_of_isAlphanum letter] at space
      cases space
    · rw [upperLetter, same]
  solid c solid := by
    refine List.forall_mem_singleton.mpr ?_
    rcases toUpper_cases c with ⟨_, letter, _⟩ | same
    · exact isSpace_of_isAlphanum letter
    · rwa [same]
  stable c := by
    refine List.forall_mem_singleton.mpr ?_
    rcases toUpper_cases c with ⟨_, _, twice⟩ | same
    · rw [upperLetter, twice]
    · rw [same, upperLetter, same]

/-- A status of no device, ids in small letters with two blanks between them, and a code in words. -/
def messyText : Str :=
  "Status:\t lost\nInstance ID:\t\t USB\\VID_0BDA \nHardware IDs:\t usb\\vid_0bda  usb\\class \nProblem Code:\t 0x28\n"

def messyDevice : WindowsDevice where
  instanceId := some "USB\\VID_0BDA"
  description := none
  hardwareIds := ["USB\\VID_0BDA", "USB\\CLASS"]
  compatibleIds := []
  problemCode := some 28
  status := none

theorem parse_print_parse_messy :
    @parsePnputilOutput asciiInterpreter (uppered upperLetter) messyText = .ok [messyDevice] ∧
      ∀ lines, Renders [messyDevice] lines →
        @parsePnputilOutput asciiInterpreter (uppered upperLetter) (endLines "\r\n" lines) = .ok [messyDevice] := by
  let _ : Interpreter := asciiInterpreter
  have parsed : parsePnputilOutput (uppered upperLetter) messyText = .ok [messyDevice] := by decide +kernel
  have solid : SolidIds [messyDevice] := by
    refine List.forall_mem_singleton.mpr ?_
    decide
  refine ⟨parsed, fun lines renders => ?_⟩
  exact ((parse_print_parse upperLaws_upperLetter [messyDevice]).2 solid).2 messyText lines "\r\n" parsed renders (.inr rfl)

end DongleRescue.Windows
