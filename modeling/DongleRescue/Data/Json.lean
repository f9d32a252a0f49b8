import DongleRescue.Data.Python

namespace DongleRescue.Data

/-! JSON values, and the encoder `json.dumps` with sorted keys, compact separators and ASCII
output. -/

/-- The end of a number with an exponent. -/
def isExponent : Str → Bool
  | 'e' :: sign :: digits => (sign = '+' || sign = '-') && digits ≠ [] && digits.all isDecimalDigit
  | _ => false

def isFraction : Str → Bool
  | '.' :: rest =>
      let behind := rest.dropWhile isDecimalDigit
      rest.takeWhile isDecimalDigit ≠ [] && (behind = [] || isExponent behind)
  | rest => isExponent rest

def unsigned : Str → Str
  | '-' :: rest => rest
  | text => text

/-- The text of a float in a document: not that of an integer. -/
def isFloat (text : Str) : Bool :=
  let whole := (unsigned text).takeWhile isDecimalDigit
  text = "NaN" || unsigned text = "Infinity" ||
    (whole = ['0'] || whole ≠ [] && whole.head? ≠ some '0') &&
      isFraction ((unsigned text).dropWhile isDecimalDigit)

/-- A float, by the text that `json.dumps` has for it. -/
structure JsonFloat where
  text : Str
  valid : isFloat text = true

namespace JsonFloat

def repr (number : JsonFloat) : Str :=
  if number.text = "NaN" then "nan"
  else if number.text = "Infinity" then "inf"
  else if number.text = "-Infinity" then "-inf"
  else number.text

/-- Zero has no other digit in front of its exponent. -/
def truthy (number : JsonFloat) : Bool :=
  (number.text.takeWhile (· != 'e')).any fun c => !("-.0" : Str).contains c

end JsonFloat

inductive Json where
  | null
  | bool (value : Bool)
  | int (value : Int)
  | float (number : JsonFloat)
  | str (value : Str)
  | list (items : List Json)
  | dict (items : List (Str × Json))

namespace Json

/-- The entry of a key; the first one, as keys of a dict are distinct. -/
def lookup (key : Str) (items : List (Str × Json)) : Option Json :=
  (items.find? fun item => item.1 = key).map Prod.snd

def truthy : Json → Bool
  | null => false
  | bool value => value
  | int value => value ≠ 0
  | float number => number.truthy
  | str value => !value.isEmpty
  | list items => !items.isEmpty
  | dict items => !items.isEmpty

def unicodeEscape (n : Nat) : Str :=
  '\\' :: 'u' :: (Nat.toDigits 16 n).leftpad 4 '0'

/-- One character inside a string literal with `ensure_ascii`: outside the basic
plane a character becomes a surrogate pair. -/
def escapeChar (c : Char) : Str :=
  let n := c.toNat
  if c = '"' then ['\\', '"']
  else if c = '\\' then ['\\', '\\']
  else if c = '\n' then ['\\', 'n']
  else if c = '\r' then ['\\', 'r']
  else if c = '\t' then ['\\', 't']
  else if n = 12 then ['\\', 'f']
  else if n = 8 then ['\\', 'b']
  else if 0x20 ≤ n ∧ n ≤ 0x7E then [c]
  else if n < 0x10000 then unicodeEscape n
  else unicodeEscape (0xD800 + (n - 0x10000) / 0x400) ++
    unicodeEscape (0xDC00 + (n - 0x10000) % 0x400)

def quote (text : Str) : Str := '"' :: text.flatMap escapeChar ++ ['"']

def numeral : Int → Str
  | .ofNat n => decimal n
  | .negSucc n => '-' :: decimal (n + 1)

def keyLe (left right : Str × Str) : Prop := textLe left.1 right.1 = true

instance : DecidableRel keyLe := fun _ _ => inferInstanceAs (Decidable (_ = true))

mutual

def canonical : Json → Str
  | null => "null"
  | bool true => "true"
  | bool false => "false"
  | int value => numeral value
  | float number => number.text
  | str value => quote value
  | list items => '[' :: join "," (canonicalList items) ++ [']']
  | dict items =>
      '\x7b' :: join "," (((canonicalItems items).insertionSort keyLe).map
        fun item => quote item.1 ++ ':' :: item.2) ++ ['\x7d']

def canonicalList : List Json → List Str
  | [] => []
  | item :: rest => canonical item :: canonicalList rest

def canonicalItems : List (Str × Json) → List (Str × Str)
  | [] => []
  | (key, value) :: rest => (key, canonical value) :: canonicalItems rest

end

section Repr

variable [Interpreter]

mutual

def repr : Json → Str
  | null => "None"
  | bool true => "True"
  | bool false => "False"
  | int value => numeral value
  | float number => number.repr
  | str value => pyRepr value
  | list items => '[' :: join ", " (reprList items) ++ [']']
  | dict items => '\x7b' :: join ", " (reprItems items) ++ ['\x7d']

def reprList : List Json → List Str
  | [] => []
  | item :: rest => repr item :: reprList rest

def reprItems : List (Str × Json) → List Str
  | [] => []
  | (key, value) :: rest => (pyRepr key ++ ": " ++ repr value) :: reprItems rest

end

/-- A value as a format string shows it. -/
def formatted : Json → Str
  | str text => text
  | value => value.repr

end Repr

example : canonical (.dict [("b", .list [.int (-3), .null]), ("a", .str "x\ny\"")]) =
    "\x7b\"a\":\"x\\ny\\\"\",\"b\":[-3,null]\x7d" := by
  decide +kernel

end Json

end DongleRescue.Data
