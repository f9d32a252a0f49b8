import DongleRescue.Data.Json
import DongleRescue.Firmware.Presence

namespace DongleRescue.Firmware

open DongleRescue.Data

/-! The kernel's failure message through the log parser: what the lines of a log state, and that
what is printed is read back. -/

def opening : Str := "Direct firmware load for "

def middle : Str := " failed with error "

def message (name : Str) (error : Int) : Str := opening ++ (name ++ (middle ++ Json.numeral error))

section Reading

variable [Interpreter] {name before after rest : Str} {error : Int}

theorem takeDecimal_decimal (n : Nat) (stops : takeDecimal after = []) :
    takeDecimal (decimal n ++ after) = (decimal n).map (fun c => c.toNat - 48) ∧
      takeDecimal (decimal n ++ after) ≠ [] := by
  have taken := takeDecimal_append (isDecimalDigit_decimal n) stops
  refine ⟨taken, ?_⟩
  rw [taken, ne_eq, List.map_eq_nil_iff]
  exact Nat.toDigits_ne_nil

/-- The number after the message: a sign, and all the digits there are. -/
theorem matchError_printed (fits : (decimal error.natAbs).length ≤ 4300) (stops : takeDecimal after = []) :
    ∃ negative digits, matchError (middle ++ (Json.numeral error ++ after)) = some (negative, digits) ∧
      intOfDecimal negative digits = .ok error := by
  have start : ∀ text, startsWith (middle ++ text) " failed with error " = true :=
    fun text => startsWith_append middle text
  have dropped : ∀ text, (middle ++ text).drop (" failed with error " : Str).length = text :=
    fun text => List.drop_left
  cases error with
  | ofNat n =>
      have fits : (decimal n).length ≤ 4300 := fits
      have value := intOfDecimal_decimal fits false
      rw [if_neg (by decide)] at value
      obtain ⟨taken, read⟩ := takeDecimal_decimal n stops
      obtain ⟨c, digits, split⟩ : ∃ c digits, decimal n = c :: digits :=
        List.exists_cons_of_ne_nil Nat.toDigits_ne_nil
      have unsigned : c ≠ '-' := by
        have digit := isDecimalDigit_decimal n c (by simp [split])
        intro sign
        rw [sign] at digit
        exact absurd digit (by decide)
      refine ⟨false, _, ?_, value⟩
      rw [matchError]
      simp only [start, dropped, Json.numeral, if_true]
      rw [← taken]
      rw [split, List.cons_append] at read ⊢
      split
      · rename_i same
        exact absurd (List.cons.inj same).1 unsigned
      · rw [if_neg read]
  | negSucc n =>
      have fits : (decimal (n + 1)).length ≤ 4300 := fits
      have value := intOfDecimal_decimal fits true
      rw [if_pos rfl] at value
      obtain ⟨taken, read⟩ := takeDecimal_decimal (n + 1) stops
      refine ⟨true, _, ?_, value⟩
      rw [matchError]
      simp only [start, dropped, Json.numeral, if_true, List.cons_append]
      rw [if_neg read, taken]

/-- The lazy name ends where the rest of the message first follows; inside a name without
spaces that is nowhere. -/
theorem matchName_append {found : Bool × List Nat} (nonempty : name ≠ [])
    (plain : ∀ c ∈ name, c ≠ ' ' ∧ c ≠ '\n') (follows : matchError rest = some found) (read : Str) :
    matchName read (name ++ rest) = some (read ++ name, found.1, found.2) := by
  induction name generalizing read with
  | nil => contradiction
  | cons c name ih =>
      rw [List.forall_mem_cons] at plain
      rw [List.cons_append, matchName, if_neg plain.1.2]
      cases name with
      | nil => simp only [List.nil_append, follows]
      | cons d name =>
          have spaced : startsWith (d :: name ++ rest) " failed with error " = false := by
            have other : (' ' == d) = false := beq_false_of_ne (Ne.symm (plain.2 d (by simp)).1)
            simp [startsWith, List.isPrefixOf, other]
          have later : matchError (d :: name ++ rest) = none := by
            rw [matchError]
            simp only [spaced, Bool.false_eq_true, if_false]
          simp only [later]
          rw [ih (List.cons_ne_nil d name) plain.2 (read ++ [c]), List.append_assoc]
          rfl

omit [Interpreter] in
/-- The message starts with a letter it does not repeat, so it cannot start inside a text
that lacks its opening words and run on into them. -/
theorem startsWith_opening (fresh : ¬ opening <:+: before) (nonempty : before ≠ []) :
    startsWith (before ++ (opening ++ rest)) opening = false := by
  rw [Bool.eq_false_iff]
  intro start
  have first : opening <+: before ++ (opening ++ rest) := List.isPrefixOf_iff_prefix.mp start
  rcases List.prefix_or_prefix_of_prefix first (List.prefix_append before _) with inside | across
  · exact fresh inside.isInfix
  · obtain ⟨more, split⟩ := across
    have continues : more <+: opening ++ rest := by
      have whole : before ++ more <+: before ++ (opening ++ rest) := by
        rw [split]
        exact first
      exact (List.prefix_append_right_inj before).mp whole
    obtain ⟨b, before, rfl⟩ := List.exists_cons_of_ne_nil nonempty
    cases more with
    | nil =>
        rw [List.append_nil] at split
        exact fresh (split ▸ List.infix_refl _)
    | cons d more =>
        have letter : d = 'D' := (List.cons_prefix_cons.mp continues).1
        have tail : opening.tail = before ++ d :: more := by
          rw [← split]
          rfl
        have unrepeated : 'D' ∉ opening.tail := by decide
        exact unrepeated (by simp [tail, letter])

theorem matchFailure_eq (text : Str) : matchFailure text =
    if startsWith text opening = true then matchName [] (text.drop opening.length) else none := rfl

theorem searchFailure_append (fresh : ¬ opening <:+: before) :
    searchFailure (before ++ (opening ++ rest)) = searchFailure (opening ++ rest) := by
  induction before with
  | nil => rfl
  | cons c before ih =>
      have skipped : matchFailure (c :: before ++ (opening ++ rest)) = none := by
        have elsewhere : startsWith (c :: before ++ (opening ++ rest)) opening = false :=
          startsWith_opening fresh (List.cons_ne_nil c before)
        rw [matchFailure_eq, elsewhere]
        rfl
      have later : ¬ opening <:+: before := fun inside => fresh (inside.trans (List.suffix_cons c before).isInfix)
      rw [List.cons_append, searchFailure]
      rw [List.cons_append] at skipped
      rw [skipped, Option.none_or, ih later]

/-- Leftmost, lazy, greedy: together they find the message that was printed. -/
theorem lineFailure_printed (fresh : ¬ opening <:+: before) (nonempty : name ≠ [])
    (plain : ∀ c ∈ name, c ≠ ' ' ∧ c ≠ '\n') (fits : (decimal error.natAbs).length ≤ 4300)
    (stops : takeDecimal after = []) :
    lineFailure (before ++ (message name error ++ after)) = .ok (some (name, error)) := by
  obtain ⟨negative, digits, follows, value⟩ := matchError_printed fits stops
  have line : before ++ (message name error ++ after) =
      before ++ (opening ++ (name ++ (middle ++ (Json.numeral error ++ after)))) := by
    simp only [message, List.append_assoc]
  have matched : matchFailure (opening ++ (name ++ (middle ++ (Json.numeral error ++ after)))) =
      some (name, negative, digits) := by
    have named := matchName_append nonempty plain follows []
    rw [List.nil_append] at named
    rw [matchFailure_eq, startsWith_append, if_pos rfl, List.drop_left]
    exact named
  have found : searchFailure (opening ++ (name ++ (middle ++ (Json.numeral error ++ after)))) =
      some (name, negative, digits) := by
    obtain ⟨c, text, split⟩ : ∃ c text, opening ++ (name ++ (middle ++ (Json.numeral error ++ after))) = c :: text :=
      ⟨_, _, rfl⟩
    rw [split] at matched ⊢
    rw [searchFailure, matched, Option.some_or]
  rw [lineFailure]
  rw [line, searchFailure_append fresh, found]
  simp only [value]
  rfl

end Reading

section Logs

variable [Interpreter]

/-- The number of the message in the line, where there is one, is one that `int` reads. -/
def ReadableNumber (line : Str) : Prop := ∀ found ∈ searchFailure line, found.2.2.length ≤ 4300

/-- The failure that a line states, with the index of the line. -/
def failureOf (entry : Str × Nat) : Option FirmwareFailure :=
  match lineFailure entry.1 with
  | .ok (some (name, error)) => some {
      firmwarePath := name
      error
      lineIndex := entry.2
      valid := fwNameValid name
      detail :=
        if fwNameValid name then "accepted by firmware name grammar"
        else "rejected by firmware name grammar (untrusted log content)" }
  | _ => none

section Any

variable {line : Str} {lines : List Str} {found : List FirmwareFailure}

theorem readableNumber_iff : ReadableNumber line ↔ ∃ stated, lineFailure line = .ok stated := by
  rw [ReadableNumber, lineFailure]
  cases searchFailure line with
  | none => simp
  | some failure =>
      obtain ⟨name, negative, digits⟩ := failure
      simp only [Option.mem_some_iff, forall_eq', intOfDecimal]
      by_cases short : digits.length ≤ 4300
      · simp only [short, if_true]
        exact iff_of_true trivial ⟨_, rfl⟩
      · simp only [short, if_false, false_iff]
        rintro ⟨stated, read⟩
        cases read

/-- The parser returns on every log whose numbers can be read, and gives what its lines state. -/
theorem failuresFrom_ok_iff (index : Nat) : failuresFrom index lines = .ok found ↔
    (∀ line ∈ lines, ReadableNumber line) ∧ found = (lines.zipIdx index).filterMap failureOf := by
  induction lines generalizing index found with
  | nil => simp [failuresFrom, eq_comm]
  | cons line lines ih =>
      rw [List.forall_mem_cons, readableNumber_iff, failuresFrom, List.zipIdx_cons]
      cases read : lineFailure line with
      | error failure =>
          refine iff_of_false (fun raised => nomatch raised) ?_
          rintro ⟨⟨⟨_, ok⟩, _⟩, _⟩
          cases ok
      | ok stated =>
          have rest : ∀ later, failuresFrom (index + 1) lines = .ok later ↔ _ := fun later => ih (index + 1)
          constructor
          · intro parsed
            obtain ⟨_, same, parsed⟩ := bind_ok parsed
            cases same
            obtain ⟨later, parsedLater, parsed⟩ := bind_ok parsed
            obtain ⟨readable, same⟩ := (rest later).mp parsedLater
            refine ⟨⟨⟨stated, rfl⟩, readable⟩, ?_⟩
            rw [List.filterMap_cons, failureOf, read, ← same]
            match stated with
            | none => exact (Except.ok.inj parsed).symm
            | some (name, error) => exact (Except.ok.inj parsed).symm
          · rintro ⟨⟨_, readable⟩, rfl⟩
            have later := (rest _).mpr ⟨readable, rfl⟩
            rw [later, List.filterMap_cons, failureOf, read]
            match stated with
            | none => rfl
            | some (name, error) => rfl

theorem parseDmesg_ok_iff : parseDmesgFirmwareFailures lines = .ok found ↔
    (∀ line ∈ lines, ReadableNumber line) ∧ found = lines.zipIdx.filterMap failureOf :=
  failuresFrom_ok_iff 0

end Any

/-- One line of the kernel's message, with what stands around it. -/
structure Printed where
  before : Str
  name : Str
  error : Int
  after : Str
  fresh : ¬ opening <:+: before
  valid : fwNameValid name = true
  fits : (decimal error.natAbs).length ≤ 4300
  stops : takeDecimal after = []

inductive LogLine where
  | printed (line : Printed)
  | other (text : Str) (silent : searchFailure text = none)

def LogLine.text : LogLine → Str
  | .printed line => line.before ++ (message line.name line.error ++ line.after)
  | .other text _ => text

/-- What the parser should make of a line and its index. -/
def LogLine.entry : LogLine × Nat → Option FirmwareFailure
  | (.printed line, index) => some {
      firmwarePath := line.name
      error := line.error
      lineIndex := index
      valid := true
      detail := "accepted by firmware name grammar" }
  | (.other _ _, _) => none

omit [Interpreter] in
theorem plain_of_valid {name : Str} (valid : fwNameValid name = true) :
    name ≠ [] ∧ ∀ c ∈ name, c ≠ ' ' ∧ c ≠ '\n' := by
  obtain ⟨c, rest, same, first, others, _⟩ := fwNameValid_parts valid
  have alnum : ∀ d ∈ asciiAlnum, d ≠ ' ' ∧ d ≠ '\n' := by decide
  have marks : ∀ d ∈ ("._/-" : Str), d ≠ ' ' ∧ d ≠ '\n' := by decide
  rw [same, List.forall_mem_cons]
  exact ⟨List.cons_ne_nil c rest, alnum c first, fun d later => (others d later).elim (alnum d) (marks d)⟩

theorem readableNumber_text (line : LogLine) : ReadableNumber line.text := by
  cases line with
  | printed line =>
      obtain ⟨nonempty, plain⟩ := plain_of_valid line.valid
      exact readableNumber_iff.mpr ⟨_, lineFailure_printed line.fresh nonempty plain line.fits line.stops⟩
  | other text silent =>
      intro found matched
      rw [LogLine.text, silent] at matched
      cases matched

theorem failureOf_text (line : LogLine) (index : Nat) : failureOf (line.text, index) = LogLine.entry (line, index) := by
  cases line with
  | printed line =>
      obtain ⟨nonempty, plain⟩ := plain_of_valid line.valid
      have read : lineFailure (LogLine.text (.printed line)) = _ :=
        lineFailure_printed line.fresh nonempty plain line.fits line.stops
      rw [failureOf, read, LogLine.entry]
      simp only [line.valid, if_true]
  | other text silent =>
      have read : lineFailure (LogLine.text (.other text silent)) = .ok none := by
        rw [LogLine.text, lineFailure]
        rw [silent]
      rw [failureOf, read]
      rfl

theorem filterMap_failureOf (lines : List LogLine) :
    (lines.map LogLine.text).zipIdx.filterMap failureOf = lines.zipIdx.filterMap LogLine.entry := by
  rw [List.zipIdx_map, List.filterMap_map]
  exact List.filterMap_congr fun entry _ => failureOf_text entry.1 entry.2

/-- One entry for each printed message, in order, and none for the other lines. -/
theorem parseDmesg_recovers (lines : List LogLine) :
    parseDmesgFirmwareFailures (lines.map LogLine.text) = .ok (lines.zipIdx.filterMap LogLine.entry) := by
  refine parseDmesg_ok_iff.mpr ⟨List.forall_mem_map.mpr fun line _ => readableNumber_text line, ?_⟩
  exact (filterMap_failureOf lines).symm

end Logs

/-- A driver's message in the kernel's log. -/
def mediatekLine : @Printed asciiInterpreter :=
  @Printed.mk asciiInterpreter "[    5.1] mt7601u 1-2:1.0: " "mediatek/mt7601u.bin" (-2) "\n" (by decide +kernel)
    (by decide) (by decide) (by decide)

theorem silent_newDevice : @searchFailure asciiInterpreter "usb 1-2: new high-speed USB device" = none := by
  decide +kernel

theorem parseDmesg_recovers_mediatek :
    let _ : Interpreter := asciiInterpreter
    parseDmesgFirmwareFailures ["usb 1-2: new high-speed USB device",
        "[    5.1] mt7601u 1-2:1.0: Direct firmware load for mediatek/mt7601u.bin failed with error -2\n"] =
      .ok [⟨"mediatek/mt7601u.bin", -2, 1, true, "accepted by firmware name grammar"⟩] := by
  intro _
  exact parseDmesg_recovers [.other _ silent_newDevice, .printed mediatekLine]

end DongleRescue.Firmware
