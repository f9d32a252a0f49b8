import DongleRescue.Data.Facts
import DongleRescue.Data.Numerals
import DongleRescue.Linux.ModulesAlias

namespace DongleRescue.Linux

open DongleRescue.Data

/-! Texts spelled from field names and hexadecimal values: the modalias grammar
accepts them and the body parser reads the fields back. -/

def IsHexOf (width : Nat) (value : Str) : Prop := value.length = width ∧ ∀ c ∈ value, isHex c = true

instance (width : Nat) (value : Str) : Decidable (IsHexOf width value) :=
  inferInstanceAs (Decidable (_ ∧ _))

section Values

variable {width : Nat} {value : Str}

theorem IsHexOf.upper (hex : IsHexOf width value) : IsHexOf width (upper value) :=
  ⟨by simp [Data.upper, hex.1], isHex_upper hex.2⟩

theorem upper_append (first second : Str) : upper (first ++ second) = upper first ++ upper second :=
  List.map_append

end Values

section Groups

variable {name value rest : Str} {star : Bool} {groups : List (Str × Bool)}

theorem requiredGroup_read {width : Nat} (hex : IsHexOf width value) :
    requiredGroup name width (name ++ (value ++ rest)) = some rest := by
  obtain ⟨same, digits⟩ := hex
  subst same
  have all : value.all isHex = true := List.all_eq_true.mpr digits
  simp only [requiredGroup, startsWith_append, List.drop_left, List.take_left, all, decide_true,
    Bool.and_self, if_true]

theorem optionalGroup_skip {text : Str} (other : startsWith text name = false) :
    optionalGroup name star text = text := by
  simp [optionalGroup, requiredGroup, other]

theorem startsWith_star {width : Nat} (positive : 0 < width) (hex : IsHexOf width value) :
    startsWith (value ++ rest) "*" = false := by
  obtain ⟨c, tail, split⟩ := List.exists_cons_of_length_pos (hex.1 ▸ positive)
  have different : c ≠ '*' := by
    intro same
    have digit := hex.2 c (by simp [split])
    rw [same] at digit
    exact absurd digit (by decide)
  simp [split, startsWith, List.isPrefixOf, Ne.symm different]

theorem optionalGroup_read (hex : IsHexOf 2 value) :
    optionalGroup name star (name ++ (value ++ rest)) = rest := by
  have noStar : startsWith (value ++ rest) "*" = false := startsWith_star (by decide) hex
  simp only [optionalGroup, List.drop_left, noStar, Bool.and_false, requiredGroup_read hex,
    Bool.false_eq_true, if_false, Option.getD_some]

theorem readGroups_skip {text : Str} (others : ∀ group ∈ groups, startsWith text group.1 = false) :
    readGroups groups text = text := by
  induction groups with
  | nil => rfl
  | cons group groups ih =>
      have skipped : optionalGroup group.1 group.2 text = text :=
        optionalGroup_skip (others group (by simp))
      rw [readGroups, List.foldl_cons, skipped]
      exact ih fun later member => others later (by simp [member])

theorem readGroups_read (hex : IsHexOf 2 value) :
    readGroups ((name, star) :: groups) (name ++ (value ++ rest)) = readGroups groups rest := by
  rw [readGroups, List.foldl_cons, optionalGroup_read hex]
  rfl

theorem startsWith_other {other : Str} (left : ¬ name <+: other) (right : ¬ other <+: name) :
    startsWith (name ++ rest) other = false := by
  rw [Bool.eq_false_iff]
  intro start
  have otherPrefix : other <+: name ++ rest := List.isPrefixOf_iff_prefix.mp start
  rcases List.prefix_or_prefix_of_prefix otherPrefix (List.prefix_append name rest) with before | after
  · exact right before
  · exact left after

/-! A numeral may be too long for its field, or negative; then no group matches and
the text stays unread. -/

def IsNumeral (value : Str) : Prop :=
  2 ≤ value.length ∧ ∀ c ∈ value, c ∈ upperDigits ++ ['-']

theorem isNumeral_format02X (number : Int) : IsNumeral (format02X number) :=
  ⟨length_format02X number, mem_format02X number⟩

private theorem optionalGroup_unread {a b : Char} (bad : ¬ (isHex a = true ∧ isHex b = true)) :
    optionalGroup name false (name ++ a :: b :: rest) = name ++ a :: b :: rest := by
  simp only [optionalGroup, requiredGroup, startsWith_append, List.drop_left, Bool.and_false,
    Bool.false_and, Bool.false_eq_true, if_false, Bool.true_and]
  rw [if_neg]
  · rfl
  · simpa using bad

/-- Names are lower-case, so no group starts at a digit left over. -/
private theorem readGroups_digit {c : Char} {text : Str} (digit : c ∈ upperDigits ++ ['-'])
    (lowered : ∀ group ∈ groups, ∀ c ∈ group.1.head?, c ∉ upperDigits ++ ['-'])
    (named : ∀ group ∈ groups, group.1 ≠ []) : readGroups groups (c :: text) = c :: text := by
  refine readGroups_skip fun group member => ?_
  obtain ⟨first, tail, split⟩ := List.exists_cons_of_ne_nil (named group member)
  have different : first ≠ c := by
    intro same
    exact lowered group member first (by simp [split]) (same ▸ digit)
  simp [startsWith, List.isPrefixOf, split, different]

theorem readGroups_numeral (numeral : IsNumeral value) (nonempty : name ≠ [])
    (lowered : ∀ group ∈ groups, ∀ c ∈ group.1.head?, c ∉ upperDigits ++ ['-'])
    (named : ∀ group ∈ groups, group.1 ≠ [])
    (others : ∀ group ∈ groups, ¬ name <+: group.1 ∧ ¬ group.1 <+: name) :
    readGroups ((name, false) :: groups) (name ++ (value ++ rest)) = [] ↔
      IsHexOf 2 value ∧ readGroups groups rest = [] := by
  obtain ⟨long, chars⟩ := numeral
  match value, long with
  | a :: b :: more, _ =>
      by_cases digits : isHex a = true ∧ isHex b = true
      · have hex : IsHexOf 2 [a, b] := ⟨rfl, by simp [digits]⟩
        have read : readGroups ((name, false) :: groups) (name ++ (a :: b :: more ++ rest)) =
            readGroups groups (more ++ rest) := readGroups_read hex
        rw [read]
        match more with
        | [] => simp [hex]
        | c :: more =>
            have leftover : readGroups groups (c :: (more ++ rest)) = c :: (more ++ rest) :=
              readGroups_digit (chars c (by simp)) lowered named
            rw [List.cons_append, leftover]
            simp [IsHexOf]
      · have unread : readGroups ((name, false) :: groups) (name ++ (a :: b :: more ++ rest)) =
            name ++ (a :: b :: more ++ rest) := by
          rw [readGroups, List.foldl_cons]
          have kept : optionalGroup name false (name ++ (a :: b :: more ++ rest)) = _ :=
            optionalGroup_unread digits
          rw [kept]
          exact readGroups_skip fun group member =>
            startsWith_other (others group member).1 (others group member).2
        rw [unread]
        constructor
        · intro empty
          exact absurd (List.append_eq_nil_iff.mp empty).1 nonempty
        · intro ⟨hex, _⟩
          exact absurd ⟨hex.2 a (by simp), hex.2 b (by simp)⟩ digits

end Groups

section Fields

/-- Field names and values one after the other; missing values end the text. -/
def spelled : List (Str × Nat) → List Str → Str
  | (name, _) :: specs, value :: values => name ++ (value ++ spelled specs values)
  | _, _ => []

def Fits : List (Str × Nat) → List Str → Prop
  | _, [] => True
  | [], _ :: _ => False
  | (_, width) :: specs, value :: values => (0 < width ∧ IsHexOf width value) ∧ Fits specs values

theorem parseFields_value {name text value rest : Str} {width : Nat} {specs : List (Str × Nat)}
    (lowered : lower text = name) (nonempty : text ≠ []) (positive : 0 < width)
    (hex : IsHexOf width value) :
    parseFields ((name, width) :: specs) (text ++ (value ++ rest)) =
      (parseFields specs rest).map ((name, upper value) :: ·) := by
  have noStar : startsWith (value ++ rest) "*" = false := startsWith_star positive hex
  have taken : (value ++ rest).take width = value := by rw [← hex.1, List.take_left]
  have dropped : (value ++ rest).drop width = rest := by rw [← hex.1, List.drop_left]
  have digits : value.all isHex = true := List.all_eq_true.mpr hex.2
  have length : name.length = text.length := by simp [← lowered, lower]
  rw [parseFields, if_neg (by simp [nonempty]), length, List.take_left, if_neg (by simp [lowered])]
  simp only [List.drop_left, noStar, taken, dropped, digits, hex.1, Bool.false_eq_true, if_false,
    ne_eq, not_true, Bool.not_true, or_self]

theorem parseFields_star {name text rest : Str} {width : Nat} {specs : List (Str × Nat)}
    (lowered : lower text = name) (nonempty : text ≠ []) :
    parseFields ((name, width) :: specs) (text ++ ('*' :: rest)) =
      (parseFields specs rest).map ((name, ['*']) :: ·) := by
  have star : startsWith ('*' :: rest) "*" = true := startsWith_append _ rest
  have length : name.length = text.length := by simp [← lowered, lower]
  rw [parseFields, if_neg (by simp [nonempty]), length, List.take_left, if_neg (by simp [lowered])]
  simp only [List.drop_left, star, if_true, List.drop_succ_cons, List.drop_zero]

theorem parseFields_spelled {specs : List (Str × Nat)} {values : List Str}
    (lowered : ∀ spec ∈ specs, lower (upper spec.1) = spec.1 ∧ spec.1 ≠ [])
    (fits : Fits specs values) :
    parseFields specs (upper (spelled specs values)) =
      some ((specs.map Prod.fst).zip (values.map upper)) := by
  induction specs generalizing values with
  | nil =>
      match values, fits with
      | [], _ => rfl
  | cons spec specs ih =>
      obtain ⟨name, width⟩ := spec
      match values, fits with
      | [], _ => simp [spelled, parseFields, upper]
      | value :: values, ⟨⟨positive, hex⟩, fits⟩ =>
          obtain ⟨same, nonempty⟩ := lowered (name, width) (by simp)
          have tail := ih (fun later member => lowered later (by simp [member])) fits
          rw [spelled, upper_append, upper_append,
            parseFields_value same (by simpa [upper] using nonempty) positive hex.upper, tail,
            upper_upper hex.2]
          rfl

theorem spelled_append {specs : List (Str × Nat)} {first second : List Str}
    (short : first.length ≤ specs.length) :
    spelled specs (first ++ second) =
      spelled specs first ++ spelled (specs.drop first.length) second := by
  induction first generalizing specs with
  | nil => cases specs <;> simp [spelled]
  | cons value first ih =>
      match specs, short with
      | (name, width) :: specs, short =>
          have tail := ih (Nat.le_of_succ_le_succ short)
          simp only [List.cons_append, spelled, tail, List.length_cons, List.drop_succ_cons,
            List.append_assoc]

theorem Fits.of_forall₂ {specs : List (Str × Nat)} {values : List Str}
    (positive : ∀ spec ∈ specs, 0 < spec.2)
    (hex : List.Forall₂ (fun spec value => IsHexOf spec.2 value) specs values) :
    Fits specs values := by
  induction hex with
  | nil => exact trivial
  | cons hex _ ih =>
      exact ⟨⟨positive _ (by simp), hex⟩, ih fun spec member => positive spec (by simp [member])⟩

theorem Fits.of_append {specs : List (Str × Nat)} {first second : List Str}
    (fits : Fits specs (first ++ second)) : Fits specs first := by
  induction first generalizing specs with
  | nil =>
      cases specs with
      | nil => exact trivial
      | cons spec specs => exact trivial
  | cons value first ih =>
      match specs, fits with
      | _ :: _, ⟨here, later⟩ => exact ⟨here, ih later⟩

theorem Fits.mem_hex {specs : List (Str × Nat)} {values : List Str} (fits : Fits specs values) :
    ∀ value ∈ values, ∀ c ∈ value, isHex c = true := by
  induction specs generalizing values with
  | nil =>
      match values, fits with
      | [], _ => simp
  | cons spec specs ih =>
      match values, fits with
      | [], _ => simp
      | value :: values, ⟨⟨_, hex⟩, fits⟩ =>
          exact List.forall_mem_cons.mpr ⟨hex.2, ih fits⟩

theorem forall_mem_spelled {property : Char → Prop} {specs : List (Str × Nat)} {values : List Str}
    (names : ∀ spec ∈ specs, ∀ c ∈ spec.1, property c)
    (all : ∀ value ∈ values, ∀ c ∈ value, property c) :
    ∀ c ∈ spelled specs values, property c := by
  induction specs generalizing values with
  | nil => simp [spelled]
  | cons spec specs ih =>
      match values with
      | [] => simp [spelled]
      | value :: values =>
          intro c member
          rw [spelled, List.mem_append, List.mem_append] at member
          rcases member with inName | inValue | later
          · exact names spec (by simp) c inName
          · exact all value (by simp) c inValue
          · exact ih (fun other member => names other (by simp [member]))
              (fun other member => all other (by simp [member])) c later

end Fields

section Modaliases

def usbText (values : List Str) : Str := "usb:" ++ spelled fieldSpecs values

variable {values : List Str}

theorem readGroups_spelled {groups : List (Str × Bool)} {specs : List (Str × Nat)}
    (same : groups.map Prod.fst = specs.map Prod.fst)
    (wide : ∀ spec ∈ specs, spec.2 = 2 ∧ spec.1 ≠ []) (fits : Fits specs values) :
    readGroups groups (spelled specs values) = [] := by
  induction specs generalizing groups values with
  | nil =>
      rw [List.map_nil, List.map_eq_nil_iff] at same
      rw [same]
      rfl
  | cons spec specs ih =>
      match groups, same with
      | (name, star) :: groups, same =>
          rw [List.map_cons, List.map_cons, List.cons.injEq] at same
          obtain ⟨sameName, sameNames⟩ := same
          have later : ∀ spec ∈ specs, spec.2 = 2 ∧ spec.1 ≠ [] :=
            fun spec member => wide spec (by simp [member])
          match values, fits with
          | [], _ =>
              have names : ∀ group ∈ (name, star) :: groups, group.1 ≠ [] := by
                intro group member
                have inSpecs : group.1 ∈ (spec :: specs).map Prod.fst := by
                  rw [List.map_cons, ← sameName, ← sameNames, ← List.map_cons (f := Prod.fst)]
                  exact List.mem_map_of_mem member
                obtain ⟨other, inList, sameOther⟩ := List.mem_map.mp inSpecs
                rw [← sameOther]
                exact (wide other inList).2
              refine readGroups_skip fun group member => ?_
              obtain ⟨c, tail, split⟩ := List.exists_cons_of_ne_nil (names group member)
              simp [startsWith, spelled, split]
          | value :: values, ⟨⟨_, hex⟩, fits⟩ =>
              have two : IsHexOf 2 value := (wide spec (by simp)).1 ▸ hex
              have text : spelled (spec :: specs) (value :: values) =
                  name ++ (value ++ spelled specs values) := by
                rw [show name = spec.1 from sameName]
                rfl
              rw [text, readGroups_read two]
              exact ih sameNames later fits

theorem modaliasOk_usbText (fits : Fits fieldSpecs values) (long : 3 ≤ values.length) :
    modaliasOk (usbText values) = true := by
  match values, fits, long with
  | v :: p :: d :: values, ⟨⟨_, vHex⟩, ⟨_, pHex⟩, ⟨_, dHex⟩, fits⟩, _ =>
      have text : usbText (v :: p :: d :: values) =
          "usb:v".toList ++ (v ++ ("p".toList ++ (p ++ ("d".toList ++
            (d ++ spelled (fieldSpecs.drop 3) values))))) := rfl
      have rest : readGroups optionalGroups (spelled (fieldSpecs.drop 3) values) = [] :=
        readGroups_spelled rfl (by decide) fits
      rw [modaliasOk]
      rw [text, requiredGroup_read vHex, Option.bind_some, requiredGroup_read pHex, Option.bind_some,
        requiredGroup_read dHex, decide_eq_true_eq]
      exact rest

theorem strip_usbText (fits : Fits fieldSpecs values) :
    strip (usbText values) = usbText values := by
  have visible : ∀ c ∈ hexDigits, isSpace c = false := by decide
  refine stripWhile_of_none (List.forall_mem_append.mpr ⟨by decide, ?_⟩)
  exact forall_mem_spelled (by decide) fun value member =>
    forall_of_isHex (fits.mem_hex value member) visible

theorem matchWithLines_usbText (fits : Fits fieldSpecs values) (long : 3 ≤ values.length)
    (items : List AliasItem) :
    matchWithLines (usbText values) items =
      (asRows items).filter fun row => patternMatches row.pattern (upper (usbText values)) := by
  unfold matchWithLines sanitizeModalias
  simp only [strip_usbText fits, modaliasOk_usbText fits long, if_true]

theorem parseBody_spelled : parseBody (spelled fieldSpecs values) = parseFields fieldSpecs (spelled fieldSpecs values) := by
  rw [parseBody, if_neg]
  match values with
  | [] => decide
  | value :: values =>
      intro same
      exact absurd (List.head_eq_of_cons_eq same) (by decide)

theorem parseBody_usbText (fits : Fits fieldSpecs values) :
    parseBody ((upper (usbText values)).drop 4) =
      some ((fieldSpecs.map Prod.fst).zip (values.map upper)) := by
  have body : (upper (usbText values)).drop 4 = upper (spelled fieldSpecs values) := rfl
  have some : upper (spelled fieldSpecs values) ≠ ['*'] := by
    match values with
    | [] => decide
    | value :: values =>
        intro same
        exact absurd (List.head_eq_of_cons_eq same) (by decide)
  rw [body, parseBody, if_neg some]
  exact parseFields_spelled (by decide) fits

end Modaliases

section Patterns

def fieldNames : List Str := fieldSpecs.map Prod.fst

abbrev FieldName := {name : Str // name ∈ fieldNames}

def known (fields : List (Str × Str)) : Facts FieldName Str := fun name => fieldValue fields name.1

def asked (fields : List (Str × Str)) : Facts FieldName Str :=
  fun name => (fieldValue fields name.1).filter fun value => value ≠ ['*']

theorem asked_eq_some_iff {fields : List (Str × Str)} {name : FieldName} {value : Str} :
    asked fields name = some value ↔ fieldValue fields name.1 = some value ∧ value ≠ ['*'] := by
  rw [asked, Option.filter_eq_some_iff, decide_eq_true_eq]

theorem fieldValue_eq_none_iff {fields : List (Str × Str)} {name : Str} :
    fieldValue fields name = none ↔ name ∉ fields.map Prod.fst := by
  rw [fieldValue, Option.map_eq_none_iff, List.find?_eq_none, List.mem_map, not_exists]
  exact forall_congr' fun field => by simp

theorem known_eq_none_iff {fields : List (Str × Str)} {name : FieldName} :
    known fields name = none ↔ name.1 ∉ fields.map Prod.fst :=
  fieldValue_eq_none_iff

theorem known_append (first second : List (Str × Str)) :
    known (first ++ second) = (known first).extend (known second) := by
  funext name
  simp only [known, fieldValue, Facts.extend, List.find?_append, Option.map_or]

theorem fieldAgrees_iff {pattern modalias : List (Str × Str)} {name : Str} :
    fieldAgrees pattern modalias name = true ↔
      ∀ value, fieldValue pattern name = some value → value ≠ ['*'] →
        fieldValue modalias name = some value := by
  rw [fieldAgrees]
  cases asks : fieldValue pattern name with
  | none => simp
  | some value =>
      by_cases star : value = ['*']
      · simp [star]
      · simp [star]

theorem entails_iff_fieldAgrees {asks knows : List (Str × Str)} :
    Facts.Entails (known knows) (asked asks) ↔
      ∀ spec ∈ fieldSpecs, fieldAgrees asks knows spec.1 = true := by
  constructor
  · intro entails spec member
    refine fieldAgrees_iff.mpr fun value stated concrete => ?_
    exact entails ⟨spec.1, List.mem_map_of_mem member⟩ value (asked_eq_some_iff.mpr ⟨stated, concrete⟩)
  · intro all name value asking
    obtain ⟨stated, concrete⟩ := asked_eq_some_iff.mp asking
    obtain ⟨spec, member, same⟩ := List.mem_map.mp name.2
    exact fieldAgrees_iff.mp (same ▸ all spec member) value stated concrete

/-- A pattern claims a modalias when the modalias entails what the pattern asks. -/
theorem patternMatches_iff {pattern modalias : Str} :
    patternMatches pattern modalias = true ↔
      startsWith (lower pattern) "usb:" = true ∧ 4 < pattern.length ∧
      ∃ asks knows, parseBody (pattern.drop 4) = some asks ∧
        parseBody (modalias.drop 4) = some knows ∧ Facts.Entails (known knows) (asked asks) := by
  have agrees : ∀ asks knows : List (Str × Str),
      (fieldSpecs.all fun spec => fieldAgrees asks knows spec.1) = true ↔
        Facts.Entails (known knows) (asked asks) := by
    intro asks knows
    rw [List.all_eq_true, entails_iff_fieldAgrees]
  rw [patternMatches]
  by_cases header : startsWith (lower pattern) "usb:" = true ∧ 4 < pattern.length
  · obtain ⟨usb, long⟩ := header
    rw [usb, decide_eq_false (Nat.not_le.mpr long)]
    cases parsed : parseBody (pattern.drop 4) with
    | none => simp
    | some asks =>
        cases body : parseBody (modalias.drop 4) with
        | none => simp
        | some knows =>
            constructor
            · intro claims
              exact ⟨rfl, long, asks, knows, rfl, rfl, (agrees asks knows).mp claims⟩
            · intro ⟨_, _, asks', knows', sameAsks, sameKnows, entails⟩
              cases sameAsks
              cases sameKnows
              exact (agrees asks knows).mpr entails
  · have refused : (!startsWith (lower pattern) "usb:" || decide (pattern.length ≤ 4)) = true := by
      rw [Bool.or_eq_true, Bool.not_eq_true', decide_eq_true_eq, ← Bool.not_eq_true]
      rcases not_and_or.mp header with other | short
      · exact .inl other
      · exact .inr (Nat.not_lt.mp short)
    rw [refused]
    constructor
    · intro claims
      cases claims
    · intro ⟨usb, long, _⟩
      exact absurd ⟨usb, long⟩ header

/-- Of the patterns that claim a longer modalias, the shorter one keeps those that
ask for none of the further fields. -/
theorem patternMatches_shorter_iff {pattern shorter longer : Str} {fields more : List (Str × Str)}
    (first : parseBody (shorter.drop 4) = some fields)
    (second : parseBody (longer.drop 4) = some (fields ++ more)) :
    patternMatches pattern shorter = true ↔
      patternMatches pattern longer = true ∧
        ∀ asks, parseBody (pattern.drop 4) = some asks →
          ∀ name, known fields name = none → asked asks name = none := by
  rw [patternMatches_iff, patternMatches_iff, first, second]
  constructor
  · intro ⟨usb, long, asks, knows, parsed, same, entails⟩
    cases same
    refine ⟨⟨usb, long, asks, _, parsed, rfl, ?_⟩, fun other parsed' => ?_⟩
    · rw [known_append]
      exact entails.extend (known more)
    · rw [parsed] at parsed'
      cases parsed'
      exact fun name unknown => entails.free unknown
  · intro ⟨⟨usb, long, asks, knows, parsed, same, entails⟩, free⟩
    cases same
    rw [known_append] at entails
    exact ⟨usb, long, asks, fields, parsed, rfl, entails.of_extend (free asks parsed)⟩

end Patterns

end DongleRescue.Linux
