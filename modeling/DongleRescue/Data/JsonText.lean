import DongleRescue.Data.JsonOrder
import DongleRescue.Data.Numerals

namespace DongleRescue.Data.Json

/-! The encoder `json.dumps` with sorted keys and ASCII output, for any white space
after its separators. -/

def isBlank (c : Char) : Bool := c = ' ' || c = '\t' || c = '\n' || c = '\r'

/-- The white space that follows a comma and a colon. -/
structure Spacing where
  space : Str
  blank : ∀ c ∈ space, isBlank c = true

def compact : Spacing := ⟨[], by decide⟩

def spaced : Spacing := ⟨[' '], by decide⟩

def member (spacing : Spacing) (key text : Str) : Str := quote key ++ ':' :: (spacing.space ++ text)

mutual

def encode (spacing : Spacing) : Json → Str
  | null => "null"
  | bool true => "true"
  | bool false => "false"
  | int value => numeral value
  | float number => number.text
  | str value => quote value
  | list items => '[' :: join (',' :: spacing.space) (encodeList spacing items) ++ [']']
  | dict items =>
      '\x7b' :: join (',' :: spacing.space)
        ((Keyed.sorted (encodeItems spacing items)).map fun item => member spacing item.1 item.2) ++
          ['\x7d']

def encodeList (spacing : Spacing) : List Json → List Str
  | [] => []
  | item :: rest => encode spacing item :: encodeList spacing rest

def encodeItems (spacing : Spacing) : List (Str × Json) → List (Str × Str)
  | [] => []
  | (key, value) :: rest => (key, encode spacing value) :: encodeItems spacing rest

end

/-- `json.dumps(value, sort_keys=True)`, of a value whose integers have texts. -/
def dumps (value : Json) : Str := encode spaced value

def newline (level : Nat) : Str := '\n' :: List.replicate level ' '

/-- The items of a list or a dict, one on each line. -/
def block (opening closing : Char) (level : Nat) (items : List Str) : Str :=
  if items = [] then [opening, closing]
  else opening :: (newline (level + 1) ++ join (',' :: newline (level + 1)) items ++ newline level ++ [closing])

mutual

def indented (level : Nat) : Json → Str
  | null => "null"
  | bool true => "true"
  | bool false => "false"
  | int value => numeral value
  | float number => number.text
  | str value => quote value
  | list items => block '[' ']' level (indentedList (level + 1) items)
  | dict items =>
      block '\x7b' '\x7d' level
        ((Keyed.sorted (indentedItems (level + 1) items)).map fun item => member spaced item.1 item.2)

def indentedList (level : Nat) : List Json → List Str
  | [] => []
  | item :: rest => indented level item :: indentedList level rest

def indentedItems (level : Nat) : List (Str × Json) → List (Str × Str)
  | [] => []
  | (key, value) :: rest => (key, indented level value) :: indentedItems level rest

end

/-- The digits that an integer may have where it becomes text. -/
def maxStrDigits : Nat := 4300

mutual

/-- Every integer in the value has a text. -/
def fits : Json → Bool
  | int value => (decimal value.natAbs).length ≤ maxStrDigits
  | list items => fitsList items
  | dict items => fitsItems items
  | _ => true

def fitsList : List Json → Bool
  | [] => true
  | item :: rest => fits item && fitsList rest

def fitsItems : List (Str × Json) → Bool
  | [] => true
  | (_, value) :: rest => fits value && fitsItems rest

end

/-- `json.dumps(value, indent=1, sort_keys=True)`. -/
def dumpsIndented (value : Json) : Py Str :=
  if fits value then .ok (indented 0 value)
  else .error (.valueError ("Exceeds the limit (4300 digits) for integer string conversion; " ++
    "use sys.set_int_max_str_digits() to increase the limit"))

theorem dumpsIndented_ok_iff {value : Json} {text : Str} :
    dumpsIndented value = .ok text ↔ fits value = true ∧ indented 0 value = text := by
  rw [dumpsIndented]
  cases fits value with
  | true => simp
  | false => simp

@[simp] theorem fits_bool (value : Bool) : fits (.bool value) = true := rfl

@[simp] theorem fits_str (value : Str) : fits (.str value) = true := rfl

theorem fits_int_iff {value : Int} : fits (.int value) = true ↔ (decimal value.natAbs).length ≤ maxStrDigits :=
  decide_eq_true_iff

theorem fits_list_iff {items : List Json} : fits (.list items) = true ↔ ∀ item ∈ items, fits item = true := by
  rw [fits]
  induction items with
  | nil => simp [fitsList]
  | cons item items ih => simp [fitsList, ih]

theorem fits_dict_iff {items : List (Str × Json)} :
    fits (.dict items) = true ↔ ∀ item ∈ items, fits item.2 = true := by
  rw [fits]
  induction items with
  | nil => simp [fitsItems]
  | cons item items ih => simp [fitsItems, ih]

example : dumpsIndented (.dict [("b", .list [.int 1, .list []]), ("a", .null)]) =
    .ok "\x7b\n \"a\": null,\n \"b\": [\n  1,\n  []\n ]\n\x7d" := by
  decide +kernel

section Lists

variable {spacing : Spacing}

theorem encodeList_eq (items : List Json) : encodeList spacing items = items.map (encode spacing) := by
  induction items with
  | nil => rfl
  | cons item items ih => rw [encodeList, ih, List.map_cons]

theorem encodeItems_eq (items : List (Str × Json)) :
    encodeItems spacing items = items.map (Prod.map id (encode spacing)) := by
  induction items with
  | nil => rfl
  | cons item items ih =>
      obtain ⟨key, value⟩ := item
      rw [encodeItems, ih, List.map_cons]
      rfl

theorem encode_list (items : List Json) : encode spacing (.list items) =
    '[' :: join (',' :: spacing.space) (items.map (encode spacing)) ++ [']'] := by
  rw [← encodeList_eq]
  rfl

theorem encode_dict (items : List (Str × Json)) : encode spacing (.dict items) =
    '\x7b' :: join (',' :: spacing.space)
      ((Keyed.sorted (items.map (Prod.map id (encode spacing)))).map fun item => member spacing item.1 item.2) ++
        ['\x7d'] := by
  rw [← encodeItems_eq]
  rfl

private theorem canonicalList_eq (items : List Json) :
    canonicalList items = items.map canonical := by
  induction items with
  | nil => rfl
  | cons item items ih => rw [canonicalList, ih, List.map_cons]

private theorem canonicalItems_eq (items : List (Str × Json)) :
    canonicalItems items = items.map (Prod.map id canonical) := by
  induction items with
  | nil => rfl
  | cons item items ih =>
      obtain ⟨key, value⟩ := item
      rw [canonicalItems, ih, List.map_cons]
      rfl

theorem canonical_list (items : List Json) :
    canonical (.list items) = '[' :: join "," (items.map canonical) ++ [']'] := by
  rw [← canonicalList_eq]
  rfl

theorem canonical_dict (items : List (Str × Json)) : canonical (.dict items) =
    '\x7b' :: join "," (((items.map (Prod.map id canonical)).insertionSort keyLe).map
      fun item => quote item.1 ++ ':' :: item.2) ++ ['\x7d'] := by
  rw [← canonicalItems_eq]
  rfl

end Lists

theorem sorted_eq_insertionSort (items : List (Str × Str)) :
    Keyed.sorted items = items.insertionSort keyLe := by
  have same := List.map_insertionSort Keyed.ByKey keyLe id items
    fun left _ right _ => (textLe_iff : textLe left.1 right.1 = true ↔ _).symm
  rwa [List.map_id, List.map_id] at same

/-- The hashed form is the encoding without white space. -/
theorem canonical_eq_encode (value : Json) : canonical value = encode compact value := by
  induction value with
  | null => rfl
  | bool value => cases value <;> rfl
  | int value => rfl
  | float number => rfl
  | str value => rfl
  | list items ih =>
      rw [canonical_list, encode_list, List.map_congr_left ih]
      rfl
  | dict items ih =>
      have items_eq : items.map (Prod.map id canonical) = items.map (Prod.map id (encode compact)) :=
        List.map_congr_left fun item member => congrArg (Prod.mk item.1) (ih item member)
      rw [canonical_dict, encode_dict, items_eq, sorted_eq_insertionSort]
      rfl

theorem encode_sortKeys (spacing : Spacing) (value : Json) :
    encode spacing (sortKeys value) = encode spacing value := by
  induction value with
  | null => rfl
  | bool value => rfl
  | int value => rfl
  | float number => rfl
  | str value => rfl
  | list items ih =>
      have texts : items.map (encode spacing ∘ sortKeys) = items.map (encode spacing) :=
        List.map_congr_left ih
      rw [sortKeys, encode_list, encode_list, sortKeysList_eq, List.map_map, texts]
  | dict items ih =>
      have items_eq : (sortKeysItems items).map (Prod.map id (encode spacing)) =
          items.map (Prod.map id (encode spacing)) := by
        rw [sortKeysItems_eq, List.map_map]
        exact List.map_congr_left fun item member => congrArg (Prod.mk item.1) (ih item member)
      rw [sortKeys, encode_dict, encode_dict, Keyed.map_sorted, items_eq, Keyed.sorted_sorted]

section Characters

variable {spacing : Spacing}

def IsPrintable (c : Char) : Prop := 0x20 ≤ c.toNat ∧ c.toNat ≤ 0x7E

instance (c : Char) : Decidable (IsPrintable c) := inferInstanceAs (Decidable (_ ∧ _))

private theorem printable_toDigits {base : Nat} (large : 1 < base) (small : base ≤ 16) (n : Nat) :
    ∀ c ∈ Nat.toDigits base n, IsPrintable c := by
  have all : ∀ digit < 16, IsPrintable (Nat.digitChar digit) := by decide
  intro c member
  obtain ⟨digit, below, same⟩ := mem_toDigits large n c member
  rw [same]
  exact all digit (below.trans_le small)

private theorem printable_unicodeEscape (n : Nat) : ∀ c ∈ unicodeEscape n, IsPrintable c := by
  rw [unicodeEscape, List.forall_mem_cons, List.forall_mem_cons]
  refine ⟨by decide, by decide, fun c member => ?_⟩
  rw [List.leftpad, List.mem_append] at member
  rcases member with padding | digit
  · rw [List.eq_of_mem_replicate padding]
    decide
  · exact printable_toDigits (by decide) (by decide) n c digit

private theorem printable_escapeChar (c : Char) : ∀ d ∈ escapeChar c, IsPrintable d := by
  simp only [escapeChar]
  split_ifs with quote backslash newline carriage tab feed backspace printable basic
  · decide
  · decide
  · decide
  · decide
  · decide
  · decide
  · decide
  · intro d member
    rw [List.mem_singleton.mp member]
    exact printable
  · exact printable_unicodeEscape c.toNat
  · exact List.forall_mem_append.mpr ⟨printable_unicodeEscape _, printable_unicodeEscape _⟩

theorem printable_quote (text : Str) : ∀ c ∈ quote text, IsPrintable c := by
  rw [quote, List.cons_append, List.forall_mem_cons, List.forall_mem_append]
  refine ⟨by decide, fun c member => ?_, by decide⟩
  obtain ⟨d, _, inEscape⟩ := List.mem_flatMap.mp member
  exact printable_escapeChar d c inEscape

private theorem printable_numeral (value : Int) : ∀ c ∈ numeral value, IsPrintable c := by
  cases value with
  | ofNat n => exact printable_toDigits (by decide) (by decide) n
  | negSucc n =>
      rw [numeral, List.forall_mem_cons]
      exact ⟨by decide, printable_toDigits (by decide) (by decide) (n + 1)⟩

/-- The characters of a number, integer or not. -/
def isNumberChar (c : Char) : Bool := isDecimalDigit c || ("-+.eNaInfity" : Str).contains c

theorem isNumberChar_of_isDecimalDigit {c : Char} (digit : isDecimalDigit c = true) : isNumberChar c = true := by
  rw [isNumberChar, digit]
  rfl

private theorem isNumberChar_of_isExponent {text : Str} (exponent : isExponent text = true) :
    ∀ c ∈ text, isNumberChar c = true := by
  unfold isExponent at exponent
  split at exponent
  · rename_i sign digits
    simp only [Bool.and_eq_true, Bool.or_eq_true, decide_eq_true_eq] at exponent
    obtain ⟨⟨signed, _⟩, decimals⟩ := exponent
    rw [List.forall_mem_cons, List.forall_mem_cons]
    refine ⟨by decide, ?_, fun c member => isNumberChar_of_isDecimalDigit (List.all_eq_true.mp decimals c member)⟩
    rcases signed with plus | minus
    · rw [plus]
      decide
    · rw [minus]
      decide
  · cases exponent

private theorem isNumberChar_of_isFraction {text : Str} (fraction : isFraction text = true) :
    ∀ c ∈ text, isNumberChar c = true := by
  unfold isFraction at fraction
  split at fraction
  · rename_i rest
    simp only [Bool.and_eq_true, Bool.or_eq_true, decide_eq_true_eq] at fraction
    rw [List.forall_mem_cons, ← List.takeWhile_append_dropWhile (p := isDecimalDigit) (l := rest),
      List.forall_mem_append]
    refine ⟨by decide, fun c member => isNumberChar_of_isDecimalDigit (List.mem_takeWhile_imp member), ?_⟩
    rcases fraction.2 with nothing | exponent
    · rw [nothing]
      exact List.forall_mem_nil _
    · exact isNumberChar_of_isExponent exponent
  · exact isNumberChar_of_isExponent fraction

private theorem forall_mem_unsigned {text : Str} {property : Char → Prop} (minus : property '-') :
    (∀ c ∈ text, property c) ↔ ∀ c ∈ unsigned text, property c := by
  unfold unsigned
  split
  · rw [List.forall_mem_cons, and_iff_right minus]
  · exact Iff.rfl

/-- What a float has in front of its fraction, and what it ends with. -/
theorem float_cases (number : JsonFloat) :
    number.text = "NaN" ∨ unsigned number.text = "Infinity" ∨
      (unsigned number.text).takeWhile isDecimalDigit ≠ [] ∧
        isFraction ((unsigned number.text).dropWhile isDecimalDigit) = true := by
  have valid := number.valid
  simp only [isFloat, Bool.and_eq_true, Bool.or_eq_true, decide_eq_true_eq] at valid
  rcases valid with (nan | infinity) | ⟨whole, fraction⟩
  · exact .inl nan
  · exact .inr (.inl infinity)
  · refine .inr (.inr ⟨?_, fraction⟩)
    rcases whole with zero | other
    · rw [zero]
      exact List.cons_ne_nil _ _
    · exact other.1

theorem isNumberChar_float (number : JsonFloat) : ∀ c ∈ number.text, isNumberChar c = true := by
  rcases float_cases number with nan | infinity | ⟨_, fraction⟩
  · rw [nan]
    decide
  · rw [forall_mem_unsigned (by decide), infinity]
    decide
  · rw [forall_mem_unsigned (by decide), ← List.takeWhile_append_dropWhile (p := isDecimalDigit) (l := unsigned _),
      List.forall_mem_append]
    exact ⟨fun c member => isNumberChar_of_isDecimalDigit (List.mem_takeWhile_imp member),
      isNumberChar_of_isFraction fraction⟩

/-- It is no numeral of an integer. -/
theorem exists_notDigit_float (number : JsonFloat) : ∃ c ∈ unsigned number.text, isDecimalDigit c = false := by
  rcases float_cases number with nan | infinity | ⟨_, fraction⟩
  · rw [nan]
    exact ⟨'N', by decide, by decide⟩
  · rw [infinity]
    exact ⟨'I', by decide, by decide⟩
  · have nonempty : (unsigned number.text).dropWhile isDecimalDigit ≠ [] := by
      intro empty
      rw [empty] at fraction
      cases fraction
    obtain ⟨c, rest, split⟩ := List.exists_cons_of_ne_nil nonempty
    have stops := List.head?_dropWhile_not isDecimalDigit (unsigned number.text)
    rw [split] at stops
    refine ⟨c, (List.dropWhile_suffix isDecimalDigit).subset ?_, by simpa using stops⟩
    rw [split]
    exact List.mem_cons_self

private theorem printable_float (number : JsonFloat) : ∀ c ∈ number.text, IsPrintable c := by
  have all : ∀ c ∈ ("0123456789-+.eNaInfity" : Str), IsPrintable c := by decide
  intro c member
  have part := isNumberChar_float number c member
  rw [isNumberChar, Bool.or_eq_true] at part
  rcases part with digit | other
  · exact all c (List.mem_append_left ("-+.eNaInfity" : Str) (List.contains_iff_mem.mp digit))
  · exact all c (List.mem_append_right ("0123456789" : Str) (List.contains_iff_mem.mp other))

/-- Whatever the value holds, its encoding is printable ASCII: one line, in any sense of
a line. -/
theorem printable_encode (blank : ∀ c ∈ spacing.space, IsPrintable c) (value : Json) :
    ∀ c ∈ encode spacing value, IsPrintable c := by
  have comma : ∀ c ∈ ',' :: spacing.space, IsPrintable c := List.forall_mem_cons.mpr ⟨by decide, blank⟩
  have words : (∀ c ∈ ("null" : Str), IsPrintable c) ∧ (∀ c ∈ ("false" : Str), IsPrintable c) ∧
      ∀ c ∈ ("true" : Str), IsPrintable c := by
    decide
  induction value with
  | null => exact words.1
  | bool value =>
      cases value with
      | false => exact words.2.1
      | true => exact words.2.2
  | int value => exact printable_numeral value
  | float number => exact printable_float number
  | str value => exact printable_quote value
  | list items ih =>
      rw [encode_list, List.cons_append, List.forall_mem_cons, List.forall_mem_append]
      exact ⟨by decide, forall_mem_join comma (List.forall_mem_map.mpr ih), by decide⟩
  | dict items ih =>
      rw [encode_dict, List.cons_append, List.forall_mem_cons, List.forall_mem_append]
      refine ⟨by decide, forall_mem_join comma (List.forall_mem_map.mpr ?_), by decide⟩
      intro entry inSorted
      have inItems := (Keyed.sorted_perm _).mem_iff.mp inSorted
      obtain ⟨item, given, same⟩ := List.mem_map.mp inItems
      rw [← same, member, List.forall_mem_append, List.forall_mem_cons, List.forall_mem_append]
      exact ⟨printable_quote item.1, by decide, blank, ih item given⟩

theorem printable_dumps (value : Json) : ∀ c ∈ dumps value, IsPrintable c :=
  printable_encode (by decide) value

end Characters

end DongleRescue.Data.Json
