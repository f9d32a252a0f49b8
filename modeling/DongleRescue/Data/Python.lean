import DongleRescue.Data.Numerals
import DongleRescue.Data.Sha256

namespace DongleRescue.Data

/-! The parts of the Python runtime the program observes: exceptions, truth
values, `repr`, `int(_, 16)`, and the tables that differ between interpreters. -/

inductive HostFailure where
  | hostError (message : Str)
  | osError (message : Str)
deriving DecidableEq

inductive PyError where
  | valueError (message : Str)
  | keyError (key : Str)
  | attributeError (name : Str)
  | typeError (message : Str)
  | host (failure : HostFailure)
deriving DecidableEq

abbrev Py (α : Type) := Except PyError α

theorem bind_ok {α β : Type} {first : Py α} {next : α → Py β} {value : β}
    (result : (first >>= next) = .ok value) : ∃ x, first = .ok x ∧ next x = .ok value := by
  cases first with
  | error failure => cases result
  | ok x => exact ⟨x, rfl, result⟩

theorem map_ok_iff {α β : Type} {f : α → β} {first : Py α} {value : β} :
    f <$> first = .ok value ↔ ∃ x, first = .ok x ∧ f x = value := by
  cases first with
  | error failure => exact iff_of_false (fun failed => nomatch failed) fun ⟨_, failed, _⟩ => nomatch failed
  | ok x =>
      constructor
      · intro result
        exact ⟨x, rfl, Except.ok.inj result⟩
      · rintro ⟨_, same, rfl⟩
        rw [Except.ok.inj same]
        rfl

theorem map_returns_iff {α β : Type} {f : α → β} {first : Py α} :
    (∃ value, f <$> first = .ok value) ↔ ∃ x, first = .ok x := by
  constructor
  · rintro ⟨value, result⟩
    obtain ⟨x, same, _⟩ := map_ok_iff.mp result
    exact ⟨x, same⟩
  · rintro ⟨x, same⟩
    exact ⟨f x, map_ok_iff.mpr ⟨x, same, rfl⟩⟩

/-- Steps that commute may be taken in any order. -/
theorem foldlM_eq_of_perm {α β : Type} {f : β → α → Py β} {first second : List α} (perm : first.Perm second)
    (commute : ∀ x ∈ first, ∀ y ∈ first, ∀ state, (f state x >>= (f · y)) = (f state y >>= (f · x))) (state : β) :
    first.foldlM f state = second.foldlM f state := by
  induction perm generalizing state with
  | nil => rfl
  | @cons x first second _ ih =>
      rw [List.foldlM_cons, List.foldlM_cons]
      have later := ih fun y inFirst z inFirst' => commute y (by simp [inFirst]) z (by simp [inFirst'])
      exact congrArg (f state x >>= ·) (funext later)
  | swap x y rest =>
      simp only [List.foldlM_cons, ← bind_assoc]
      rw [commute y (by simp) x (by simp)]
  | @trans first middle last perm _ ih ih' =>
      refine (ih commute state).trans (ih' ?_ state)
      exact fun x member y member' => commute x (perm.mem_iff.mpr member) y (perm.mem_iff.mpr member')

theorem mem_mapM {α β : Type} {f : α → Py β} {inputs : List α} {outputs : List β} {output : β}
    (mapped : inputs.mapM f = .ok outputs) (member : output ∈ outputs) :
    ∃ input ∈ inputs, f input = .ok output := by
  induction inputs generalizing outputs with
  | nil =>
      rw [List.mapM_nil] at mapped
      cases mapped
      simp at member
  | cons input inputs ih =>
      rw [List.mapM_cons] at mapped
      obtain ⟨first, headOk, mapped⟩ := bind_ok mapped
      obtain ⟨rest, tailOk, mapped⟩ := bind_ok mapped
      cases mapped
      rcases List.mem_cons.mp member with same | later
      · exact ⟨input, by simp, by rw [same]; exact headOk⟩
      · obtain ⟨found, inRest, found_ok⟩ := ih tailOk later
        exact ⟨found, by simp [inRest], found_ok⟩

theorem map_of_mapM {α β : Type} {f : α → Py β} {g : β → α} {inputs : List α} {outputs : List β}
    (inverts : ∀ {input output}, f input = .ok output → g output = input)
    (mapped : inputs.mapM f = .ok outputs) : outputs.map g = inputs := by
  induction inputs generalizing outputs with
  | nil =>
      rw [List.mapM_nil] at mapped
      cases mapped
      rfl
  | cons input inputs ih =>
      rw [List.mapM_cons] at mapped
      obtain ⟨first, headOk, mapped⟩ := bind_ok mapped
      obtain ⟨rest, tailOk, mapped⟩ := bind_ok mapped
      cases mapped
      rw [List.map_cons, inverts headOk, ih tailOk]

theorem forall₂_of_mapM {α β : Type} {f : α → Py β} {inputs : List α} {outputs : List β}
    (mapped : inputs.mapM f = .ok outputs) :
    List.Forall₂ (fun input output => f input = .ok output) inputs outputs := by
  induction inputs generalizing outputs with
  | nil =>
      rw [List.mapM_nil] at mapped
      cases mapped
      exact .nil
  | cons input inputs ih =>
      rw [List.mapM_cons] at mapped
      obtain ⟨first, headOk, mapped⟩ := bind_ok mapped
      obtain ⟨rest, tailOk, mapped⟩ := bind_ok mapped
      cases mapped
      exact .cons headOk (ih tailOk)

theorem exists_of_mem_right {α β : Type} {relation : α → β → Prop} {lefts : List α} {rights : List β}
    (related : List.Forall₂ relation lefts rights) {right : β} (member : right ∈ rights) :
    ∃ left ∈ lefts, relation left right := by
  induction related with
  | nil => cases member
  | @cons left first lefts rights here _ ih =>
      rcases List.mem_cons.mp member with same | later
      · exact ⟨left, by simp, same ▸ here⟩
      · obtain ⟨found, inLefts, relates⟩ := ih later
        exact ⟨found, by simp [inLefts], relates⟩

theorem exists_of_mem_left {α β : Type} {relation : α → β → Prop} {lefts : List α} {rights : List β}
    (related : List.Forall₂ relation lefts rights) {left : α} (member : left ∈ lefts) :
    ∃ right ∈ rights, relation left right :=
  exists_of_mem_right related.flip member

/-- Searches that agree on related items find related items. -/
theorem find?_of_forall₂ {α β : Type} {relation : α → β → Prop} {lefts : List α} {rights : List β}
    {p : α → Bool} {q : β → Bool} (related : List.Forall₂ relation lefts rights)
    (agree : ∀ left right, relation left right → p left = q right) :
    (lefts.find? p = none ∧ rights.find? q = none) ∨
      ∃ left right, lefts.find? p = some left ∧ rights.find? q = some right ∧ relation left right := by
  induction related with
  | nil => exact .inl ⟨rfl, rfl⟩
  | @cons left right lefts rights here _ ih =>
      have same := agree left right here
      cases found : p left with
      | true =>
          rw [found] at same
          exact .inr ⟨left, right, List.find?_cons_of_pos found, List.find?_cons_of_pos same.symm, here⟩
      | false =>
          rw [found] at same
          rw [List.find?_cons_of_neg (by simp [found]), List.find?_cons_of_neg (by simp [← same])]
          exact ih

theorem mapM_returns {α β : Type} {f : α → Py β} {inputs : List α}
    (returns : ∀ input ∈ inputs, ∃ output, f input = .ok output) :
    ∃ outputs, inputs.mapM f = .ok outputs := by
  induction inputs with
  | nil => exact ⟨[], rfl⟩
  | cons input inputs ih =>
      obtain ⟨output, first⟩ := returns input (by simp)
      obtain ⟨outputs, rest⟩ := ih fun later member => returns later (by simp [member])
      refine ⟨output :: outputs, ?_⟩
      rw [List.mapM_cons, first, rest]
      rfl

/-- What varies with the interpreter: its character database (`isprintable` and
the decimal digit values outside ASCII), and the digest `hashlib` computes. -/
class Interpreter where
  isPrintable : Char → Bool
  decimalValue : Char → Option (Fin 10)
  sha256 : Str → Str

/-- The ASCII part of the character database, with the actual digest. -/
@[reducible] def asciiInterpreter : Interpreter where
  isPrintable c := decide (0x20 ≤ c.toNat ∧ c.toNat ≤ 0x7E)
  decimalValue _ := none
  sha256 := Sha256.hexdigest

def truthy : Option Str → Bool
  | some (_ :: _) => true
  | _ => false

def pyOr (left right : Option Str) : Option Str :=
  if truthy left then left else right

theorem truthy_iff {value : Option Str} :
    truthy value = true ↔ ∃ text, value = some text ∧ text ≠ [] := by
  match value with
  | none => simp [truthy]
  | some [] => simp [truthy]
  | some (c :: rest) => simp [truthy]

theorem pyOr_of_truthy {left : Option Str} (true_ : truthy left = true) (right : Option Str) :
    pyOr left right = left := by
  simp [pyOr, true_]

theorem pyOr_of_not_truthy {left : Option Str} (false_ : truthy left = false)
    (right : Option Str) : pyOr left right = right := by
  simp [pyOr, false_]

def fromkeys (keys : List Str) : List Str := keys.eraseDups

section Repr

variable [Interpreter]

private def hexEscape (letter : Char) (width n : Nat) : Str :=
  '\\' :: letter :: (Nat.toDigits 16 n).leftpad width '0'

private def reprChar (quote c : Char) : Str :=
  let n := c.toNat
  if c = quote ∨ c = '\\' then ['\\', c]
  else if c = '\t' then ['\\', 't']
  else if c = '\n' then ['\\', 'n']
  else if c = '\r' then ['\\', 'r']
  else if n < 0x20 ∨ n = 0x7F then hexEscape 'x' 2 n
  else if n < 0x7F then [c]
  else if Interpreter.isPrintable c then [c]
  else if n < 0x100 then hexEscape 'x' 2 n
  else if n < 0x10000 then hexEscape 'u' 4 n
  else hexEscape 'U' 8 n

def pyRepr (text : Str) : Str :=
  let single := Char.ofNat 39
  let double := Char.ofNat 34
  let quote := if text.contains single && !text.contains double then double else single
  quote :: text.flatMap (reprChar quote) ++ [quote]

def formatOption : Option Str → Str
  | none => "None"
  | some text => text

def formatTexts : Option (List Str) → Str
  | none => "None"
  | some texts => '[' :: join ", " (texts.map pyRepr) ++ [']']

end Repr

section Integers

variable [Interpreter]

/-- `int` first maps the whitespace and the decimal digits of all scripts to ASCII. -/
private def asciiNumeral (c : Char) : Char :=
  if c.toNat < 128 then c
  else if isSpace c then ' '
  else match Interpreter.decimalValue c with
    | some digit => Nat.digitChar digit
    | none => '?'

private def hexValue (c : Char) : Option Nat :=
  if isHex c then some ((("0123456789abcdef" : Str).idxOf c.toLower)) else none

/-- Hexadecimal digits, with single underscores allowed between two of them. -/
private def readHex : Nat → Bool → Str → Option Nat
  | value, digitBefore, [] => if digitBefore then some value else none
  | value, digitBefore, '_' :: rest => if digitBefore then readHex value false rest else none
  | value, _, c :: rest => (hexValue c).bind fun digit => readHex (value * 16 + digit) true rest

private def readMagnitude : Str → Option Nat
  | '0' :: 'x' :: '_' :: rest | '0' :: 'X' :: '_' :: rest => readHex 0 false rest
  | '0' :: 'x' :: rest | '0' :: 'X' :: rest => readHex 0 false rest
  | digits => readHex 0 false digits

def int16 (text : Str) : Py Int :=
  let numeral := stripWhile (fun c => c = ' ' || (9 ≤ c.toNat && c.toNat ≤ 13)) (text.map asciiNumeral)
  let value := match numeral with
    | '-' :: rest => (readMagnitude rest).map fun n => -(n : Int)
    | '+' :: rest => (readMagnitude rest).map Int.ofNat
    | rest => (readMagnitude rest).map Int.ofNat
  match value with
  | some n => .ok n
  | none => .error (.valueError ("invalid literal for int() with base 16: " ++ pyRepr text))

omit [Interpreter] in
private theorem readHex_upperDigits {digits : Str} (upper : ∀ c ∈ digits, c ∈ upperDigits) (value : Nat)
    (before : Bool) (read : digits ≠ [] ∨ before = true) :
    readHex value before digits = some (readDigits 16 value digits) := by
  induction digits generalizing value before with
  | nil =>
      rw [read.resolve_left (not_not.mpr rfl)]
      rfl
  | cons c rest ih =>
      obtain ⟨here, later⟩ := List.forall_mem_cons.mp upper
      have digit : ∀ c ∈ upperDigits, c ≠ '_' ∧ hexValue c = some (digitValue c) := by decide
      obtain ⟨notSeparator, known⟩ := digit c here
      rw [readHex, known, Option.bind_some, ih later _ _ (.inr rfl)]
      · rfl
      · exact notSeparator

omit [Interpreter] in
private theorem readMagnitude_upperDigits {digits : Str} (upper : ∀ c ∈ digits, c ∈ upperDigits)
    (nonempty : digits ≠ []) : readMagnitude digits = some (readDigits 16 0 digits) := by
  have unmarked : ∀ mark, mark = 'x' ∨ mark = 'X' → ∀ rest, digits ≠ '0' :: mark :: rest := by
    rintro mark marks rest rfl
    have listed := upper mark (by simp)
    rcases marks with rfl | rfl
    · exact absurd listed (by decide)
    · exact absurd listed (by decide)
  unfold readMagnitude
  split
  · exact absurd rfl (unmarked 'x' (.inl rfl) _)
  · exact absurd rfl (unmarked 'X' (.inr rfl) _)
  · exact absurd rfl (unmarked 'x' (.inl rfl) _)
  · exact absurd rfl (unmarked 'X' (.inr rfl) _)
  · exact readHex_upperDigits upper 0 false (.inl nonempty)

/-- A number that is written by the format `02X` is read back. -/
theorem int16_format02X (number : Int) : int16 (format02X number) = .ok number := by
  have ascii : (format02X number).map asciiNumeral = format02X number := by
    have fixed : ∀ c ∈ upperDigits ++ ['-'], c.toNat < 128 := by decide
    refine (List.map_congr_left fun c member => ?_).trans (List.map_id _)
    exact if_pos (fixed c (mem_format02X number c member))
  have solid : stripWhile (fun c => c = ' ' || (9 ≤ c.toNat && c.toNat ≤ 13)) (format02X number) =
      format02X number := by
    have kept : ∀ c ∈ upperDigits ++ ['-'], (c = ' ' || (9 ≤ c.toNat && c.toNat ≤ 13) : Bool) = false := by decide
    exact stripWhile_of_none fun c member => kept c (mem_format02X number c member)
  rw [int16, ascii, solid]
  cases number with
  | ofNat n =>
      have upper := mem_format02X_ofNat n
      have nonempty : format02X (.ofNat n) ≠ [] :=
        List.ne_nil_of_length_pos (by have := length_format02X (.ofNat n); omega)
      have read := readMagnitude_upperDigits upper nonempty
      rw [readDigits_format02X] at read
      have unsigned : ∀ sign, sign = '-' ∨ sign = '+' → ∀ rest, format02X (.ofNat n) ≠ sign :: rest := by
        rintro sign signs rest same
        have listed := upper sign (same ▸ List.mem_cons_self)
        rcases signs with rfl | rfl
        · exact absurd listed (by decide)
        · exact absurd listed (by decide)
      split
      · rename_i value found
        split at found
        · rename_i same
          exact absurd same (unsigned '-' (.inl rfl) _)
        · rename_i same
          exact absurd same (unsigned '+' (.inr rfl) _)
        · rw [read] at found
          exact congrArg Except.ok (Option.some.inj found).symm
      · rename_i found
        split at found
        · rename_i same
          exact absurd same (unsigned '-' (.inl rfl) _)
        · rename_i same
          exact absurd same (unsigned '+' (.inr rfl) _)
        · rw [read] at found
          cases found
  | negSucc n =>
      have read := readMagnitude_upperDigits (mem_hexUpper (n + 1)) (List.ne_nil_of_length_pos (length_hexUpper_pos (n + 1)))
      rw [readDigits_hexUpper] at read
      simp only [format02X, read]
      rfl

private def decimalDigit (c : Char) : Option Nat :=
  if isDecimalDigit c then some (c.toNat - 48)
  else (Interpreter.decimalValue c).map Fin.val

/-- The longest run of decimal digits at the start of a text (the class `\d`). -/
def takeDecimal : Str → List Nat
  | [] => []
  | c :: rest => match decimalDigit c with
    | some digit => digit :: takeDecimal rest
    | none => []

/-- ASCII digits are taken up to where no digit follows. -/
theorem takeDecimal_append {digits rest : Str} (decimals : ∀ c ∈ digits, isDecimalDigit c = true)
    (stops : takeDecimal rest = []) :
    takeDecimal (digits ++ rest) = digits.map fun c => c.toNat - 48 := by
  induction digits with
  | nil => exact stops
  | cons c digits ih =>
      rw [List.forall_mem_cons] at decimals
      have digit : decimalDigit c = some (c.toNat - 48) := by rw [decimalDigit, if_pos decimals.1]
      rw [List.cons_append, takeDecimal]
      simp only [digit, ih decimals.2, List.map_cons]

theorem takeDecimal_singleton_iff {c : Char} :
    takeDecimal [c] ≠ [] ↔ isDecimalDigit c = true ∨ Interpreter.decimalValue c ≠ none := by
  cases ascii : isDecimalDigit c with
  | true => simp [takeDecimal, decimalDigit, ascii]
  | false =>
      cases value : Interpreter.decimalValue c with
      | none => simp [takeDecimal, decimalDigit, ascii, value]
      | some digit => simp [takeDecimal, decimalDigit, ascii, value]

/-- A text is a run of decimal digits when each of its characters is one. -/
theorem takeDecimal_length_iff {text : Str} :
    (takeDecimal text).length = text.length ↔ ∀ c ∈ text, takeDecimal [c] ≠ [] := by
  induction text with
  | nil => simp [takeDecimal]
  | cons c rest ih =>
      rw [List.forall_mem_cons, ← ih]
      cases digit : decimalDigit c with
      | none => simp [takeDecimal, digit]
      | some value => simp [takeDecimal, digit]

theorem lt_ten_of_mem_takeDecimal {text : Str} : ∀ digit ∈ takeDecimal text, digit < 10 := by
  induction text with
  | nil => exact fun digit member => nomatch member
  | cons c rest ih =>
      cases value : decimalDigit c with
      | none => simp [takeDecimal, value]
      | some digit =>
          simp only [takeDecimal, value, List.forall_mem_cons]
          refine ⟨?_, ih⟩
          rw [decimalDigit] at value
          split at value
          · rename_i ascii
            have small : ∀ d ∈ ("0123456789" : Str), d.toNat - 48 < 10 := by decide
            rw [← Option.some.inj value]
            exact small c (List.contains_iff_mem.mp ascii)
          · obtain ⟨digit', _, rfl⟩ := Option.map_eq_some_iff.mp value
            exact digit'.isLt

/-- `int` of a run of decimal digits; more than 4300 of them are refused. -/
def intOfDecimal (negative : Bool) (digits : List Nat) : Py Int :=
  if digits.length ≤ 4300 then
    let value : Nat := digits.foldl (fun value digit => value * 10 + digit) 0
    .ok (if negative then -(value : Int) else value)
  else .error (.valueError ("Exceeds the limit (4300 digits) for integer string conversion: value has " ++
    decimal digits.length ++ " digits; use sys.set_int_max_str_digits() to increase the limit"))

end Integers

/-- A number that is printed is read back. -/
theorem intOfDecimal_decimal {n : Nat} (fits : (decimal n).length ≤ 4300) (negative : Bool) :
    intOfDecimal negative ((decimal n).map fun c => c.toNat - 48) =
      .ok (if negative then -(n : Int) else n) := by
  have value : ((decimal n).map fun c => c.toNat - 48).foldl (fun value digit => value * 10 + digit) 0 = n := by
    have digit : ∀ c ∈ ("0123456789" : Str), c.toNat - 48 = digitValue c := by decide
    have read : readDigits 10 0 (decimal n) = n := readDigits_toDigits (by decide) (by decide) n
    refine Eq.trans ?_ read
    rw [List.foldl_map, readDigits]
    exact List.foldl_ext _ _ _ fun value c member => by
      rw [digit c (List.contains_iff_mem.mp (isDecimalDigit_decimal n c member))]
  rw [intOfDecimal, if_pos (by simpa using fits)]
  simp only [value]

end DongleRescue.Data
