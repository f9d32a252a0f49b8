import DongleRescue.Data.JsonText
import DongleRescue.Data.Numerals

namespace DongleRescue.Data.Json

/-! A reader of JSON documents as a machine over their characters.  It is meant for the documents whose
integers have no more digits than `int` reads, whose floats are spelled as `json.dumps` does and whose
strings are sequences of scalar values. -/

/-- What the value being read is for: a place in a list, a key of a dict, or the
value of a key; with what stands before it. -/
inductive Frame where
  | list (items : List Json)
  | key (items : List (Str × Json))
  | item (items : List (Str × Json)) (key : Str)

inductive Phase where
  | value
  | opened
  | text (read : Str) (high : Option Nat)
  | escape (read : Str) (high : Option Nat)
  | unicode (read : Str) (high : Option Nat) (left code : Nat)
  | word (rest : Str) (value : Json)
  | number (negative : Bool) (digits : Str)
  | after (value : Json)

abbrev Config := Phase × List Frame

/-- A key that comes again replaces the value it had. -/
def insert (items : List (Str × Json)) (key : Str) (value : Json) : List (Str × Json) :=
  if key ∈ items.map Prod.fst then
    items.map fun item => if item.1 = key then (key, value) else item
  else items ++ [(key, value)]

def signed (negative : Bool) (digits : Str) : Str := if negative then '-' :: digits else digits

/-- Digits are an integer when they are its decimal numeral: no leading zeros. -/
def numberValue (negative : Bool) (digits : Str) : Option Json :=
  let magnitude := readDigits 10 0 digits
  if decimal magnitude = digits then
    some (.int (if negative then -(magnitude : Int) else magnitude))
  else if valid : isFloat (signed negative digits) = true then some (.float ⟨signed negative digits, valid⟩)
  else none

def unescape (c : Char) : Option Char :=
  if c = '"' ∨ c = '\\' ∨ c = '/' then some c
  else if c = 'b' then some '\x08'
  else if c = 'f' then some '\x0c'
  else if c = 'n' then some '\n'
  else if c = 'r' then some '\r'
  else if c = 't' then some '\t'
  else none

/-- A code unit after an escape: a high surrogate waits for its other half. -/
def scalar (read : Str) (high : Option Nat) (code : Nat) : Option Phase :=
  match high with
  | none =>
      if 0xD800 ≤ code ∧ code < 0xDC00 then some (.text read (some code))
      else if 0xDC00 ≤ code ∧ code < 0xE000 then none
      else some (.text (read ++ [Char.ofNat code]) none)
  | some high =>
      if 0xDC00 ≤ code ∧ code < 0xE000 then
        some (.text (read ++ [Char.ofNat (0x10000 + (high - 0xD800) * 0x400 + (code - 0xDC00))]) none)
      else none

def expectsKey : List Frame → Bool
  | .key _ :: _ => true
  | _ => false

/-- What a number without a sign starts with, `NaN` and `Infinity` among them. -/
def startsNumber (c : Char) : Bool := isDecimalDigit c || ("NI" : Str).contains c

def start (stack : List Frame) (c : Char) : Option Config :=
  if c = '"' then some (.text [] none, stack)
  else if expectsKey stack then none
  else if c = '[' then some (.opened, .list [] :: stack)
  else if c = '\x7b' then some (.opened, .key [] :: stack)
  else if c = 'n' then some (.word "ull" .null, stack)
  else if c = 't' then some (.word "rue" (.bool true), stack)
  else if c = 'f' then some (.word "alse" (.bool false), stack)
  else if c = '-' then some (.number true [], stack)
  else if startsNumber c then some (.number false [c], stack)
  else none

def close (value : Json) (stack : List Frame) (c : Char) : Option Config :=
  if isBlank c then some (.after value, stack)
  else match stack with
    | [] => none
    | .list items :: stack =>
        if c = ',' then some (.value, .list (items ++ [value]) :: stack)
        else if c = ']' then some (.after (.list (items ++ [value])), stack)
        else none
    | .key items :: stack =>
        match value with
        | .str key => if c = ':' then some (.value, .item items key :: stack) else none
        | _ => none
    | .item items key :: stack =>
        if c = ',' then some (.value, .key (insert items key value) :: stack)
        else if c = '\x7d' then some (.after (.dict (insert items key value)), stack)
        else none

def step : Config → Char → Option Config
  | (.value, stack), c => if isBlank c then some (.value, stack) else start stack c
  | (.opened, stack), c =>
      if isBlank c then some (.opened, stack)
      else match stack with
        | .list [] :: rest => if c = ']' then some (.after (.list []), rest) else start stack c
        | .key [] :: rest => if c = '\x7d' then some (.after (.dict []), rest) else start stack c
        | _ => none
  | (.text read high, stack), c =>
      if c = '\\' then some (.escape read high, stack)
      else if high.isSome then none
      else if c = '"' then some (.after (.str read), stack)
      else if c.toNat < 0x20 then none
      else some (.text (read ++ [c]) none, stack)
  | (.escape read high, stack), c =>
      if c = 'u' then some (.unicode read high 4 0, stack)
      else if high.isSome then none
      else (unescape c).map fun meant => (.text (read ++ [meant]) none, stack)
  | (.unicode read high left code, stack), c =>
      if isHex c then
        if left = 1 then (scalar read high (code * 16 + digitValue c)).map (·, stack)
        else some (.unicode read high (left - 1) (code * 16 + digitValue c), stack)
      else none
  | (.word rest value, stack), c =>
      match rest with
      | [] => none
      | d :: rest =>
          if c = d then some (if rest = [] then .after value else .word rest value, stack) else none
  | (.number negative digits, stack), c =>
      if isNumberChar c then some (.number negative (digits ++ [c]), stack)
      else (numberValue negative digits).bind fun value => close value stack c
  | (.after value, stack), c => close value stack c

def run (config : Config) (text : Str) : Option Config := text.foldlM step config

def finish : Config → Option Json
  | (.after value, []) => some value
  | (.number negative digits, []) => numberValue negative digits
  | _ => none

def readDocument (text : Str) : Option Json := (run (.value, []) text).bind finish

example : (readDocument " [ 1.5e+16, \x7b\"a\": \"\\ud83d\\ude00\", \"a\": -0\x7d, true ] ").map canonical =
    some "[1.5e+16,\x7b\"a\":0\x7d,true]".toList := by
  decide +kernel

end DongleRescue.Data.Json
