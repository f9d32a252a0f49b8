import DongleRescue.Data.Glob
import DongleRescue.Linux.Grammar
import DongleRescue.Linux.Rows

namespace DongleRescue.Linux

open DongleRescue.Data

/-! Field-wise matching beside glob matching of the same pattern. -/

def globSymbol (c : Char) : Option Char := if c = '*' then none else some c

/-- `*` stands for any text, every other character for itself. -/
def glob (pattern : Str) : Glob Char := pattern.map globSymbol

def globMatches (pattern text : Str) : Bool := (glob pattern).accepts text

theorem glob_append (first second : Str) : glob (first ++ second) = glob first ++ glob second :=
  List.map_append

theorem glob_word {word : Str} (plain : '*' ∉ word) : glob word = word.map some := by
  refine List.map_congr_left fun c member => if_neg ?_
  intro same
  exact plain (same ▸ member)

theorem mem_glob_word {wild : Language Char} {word rest text : Str} (plain : '*' ∉ word) :
    text ∈ Glob.language wild (glob (word ++ rest)) ↔
      ∃ tail ∈ Glob.language wild (glob rest), word ++ tail = text := by
  rw [glob_append, glob_word plain]
  exact Glob.mem_language_word

theorem mem_glob_star {wild : Language Char} {rest text : Str} :
    text ∈ Glob.language wild (glob ('*' :: rest)) ↔
      ∃ front ∈ wild, ∃ tail ∈ Glob.language wild (glob rest), front ++ tail = text :=
  Glob.mem_language_wildcard

section Fields

variable {name text : Str} {width : Nat} {specs : List (Str × Nat)} {fields : List (Str × Str)}

/-- What a field read from a pattern looked like. -/
inductive FieldText (width : Nat) : Str → Str → Prop
  | star : FieldText width ['*'] ['*']
  | hex {value : Str} (digits : IsHexOf width value) : FieldText width value (upper value)

theorem parseFields_cons (parsed : parseFields ((name, width) :: specs) text = some fields) :
    text = [] ∧ fields = [] ∨ ∃ token value stored rest later,
      text = token ++ (value ++ rest) ∧ lower token = name ∧ FieldText width value stored ∧
        parseFields specs rest = some later ∧ fields = (name, stored) :: later := by
  rw [parseFields] at parsed
  split at parsed
  · rename_i empty
    cases parsed
    exact .inl ⟨empty, rfl⟩
  · split at parsed
    · cases parsed
    · rename_i named
      have token : text = text.take name.length ++ text.drop name.length :=
        (List.take_append_drop _ _).symm
      refine .inr ⟨text.take name.length, ?_⟩
      dsimp only at parsed
      split at parsed
      · rename_i star
        obtain ⟨rest, split⟩ := startsWith_iff.mp star
        have dropped : (text.drop name.length).drop 1 = rest := by
          rw [split]
          rfl
        rw [dropped] at parsed
        obtain ⟨later, read, same⟩ := Option.map_eq_some_iff.mp parsed
        refine ⟨['*'], ['*'], rest, later, ?_, not_ne_iff.mp named, .star, read, same.symm⟩
        rw [split] at token
        exact token
      · split at parsed
        · cases parsed
        · rename_i hex
          simp only [not_or, ne_eq, not_not, Bool.not_eq_true', Bool.not_eq_false] at hex
          obtain ⟨later, read, same⟩ := Option.map_eq_some_iff.mp parsed
          refine ⟨(text.drop name.length).take width, _, (text.drop name.length).drop width, later, ?_,
            not_ne_iff.mp named, .hex ⟨hex.1, List.all_eq_true.mp hex.2⟩, read, same.symm⟩
          rw [List.take_append_drop, List.take_append_drop]

theorem fieldValue_cons_self (value : Str) : fieldValue ((name, value) :: fields) name = some value := by
  simp [fieldValue]

theorem fieldValue_cons_of_ne {other : Str} (different : name ≠ other) (value : Str) :
    fieldValue ((name, value) :: fields) other = fieldValue fields other := by
  simp [fieldValue, different]

theorem forall_fieldAgrees_cons {names : List Str} {value stored : Str}
    {asks knows : List (Str × Str)} (fresh : name ∉ names) :
    (∀ other ∈ name :: names,
        fieldAgrees ((name, value) :: asks) ((name, stored) :: knows) other = true) ↔
      (value = ['*'] ∨ value = stored) ∧ ∀ other ∈ names, fieldAgrees asks knows other = true := by
  have here : fieldAgrees ((name, value) :: asks) ((name, stored) :: knows) name = true ↔
      value = ['*'] ∨ value = stored := by
    simp only [fieldAgrees, fieldValue_cons_self, Bool.or_eq_true, decide_eq_true_eq,
      Option.some.injEq]
    rw [eq_comm (a := stored)]
  have later : ∀ other ∈ names, fieldAgrees ((name, value) :: asks) ((name, stored) :: knows) other =
      fieldAgrees asks knows other := by
    intro other member
    have different : name ≠ other := fun same => fresh (same ▸ member)
    simp only [fieldAgrees, fieldValue_cons_of_ne different]
  rw [List.forall_mem_cons, here]
  exact and_congr_right fun _ => forall₂_congr fun other member => by rw [later other member]

theorem lower_append (first second : Str) : lower (first ++ second) = lower first ++ lower second :=
  List.map_append

theorem star_notMem_hex {value : Str} (hex : ∀ c ∈ value, isHex c = true) : '*' ∉ value := by
  intro member
  exact absurd (hex '*' member) (by decide)

/-- A field list that was read and agrees globs the text of the values it agrees with:
one field after the other, the pattern stopping anywhere. -/
theorem mem_glob_of_parseFields {values : List Str}
    (lowered : ∀ spec ∈ specs, lower spec.1 = spec.1 ∧ '*' ∉ spec.1)
    (distinct : (specs.map Prod.fst).Nodup)
    (hex : List.Forall₂ (fun spec value => IsHexOf spec.2 value) specs values)
    (parsed : parseFields specs text = some fields)
    (agrees : ∀ name ∈ specs.map Prod.fst,
      fieldAgrees fields ((specs.map Prod.fst).zip (values.map upper)) name = true) :
    lower (spelled specs values) ∈ Glob.language ⊤ (glob (lower (text ++ ['*']))) := by
  have rest : ∀ text : Str, text ∈ Glob.language ⊤ (glob (lower ([] ++ ['*']))) :=
    fun text => mem_glob_star.mpr ⟨text, trivial, [], Glob.mem_language_nil.mpr rfl, List.append_nil _⟩
  induction hex generalizing text fields with
  | nil =>
      rw [parseFields] at parsed
      split at parsed
      · rename_i empty
        rw [empty]
        exact rest _
      · cases parsed
  | @cons spec known specs values digits _ ih =>
      obtain ⟨name, width⟩ := spec
      obtain ⟨same, plain⟩ := lowered (name, width) (by simp)
      rw [List.map_cons, List.nodup_cons] at distinct
      rcases parseFields_cons parsed with ⟨empty, _⟩ | ⟨token, value, stored, more, later, split, named,
        form, read, fieldsEq⟩
      · rw [empty]
        exact rest _
      · rw [fieldsEq, List.map_cons, List.map_cons, List.zip_cons_cons,
          forall_fieldAgrees_cons distinct.1] at agrees
        have tail := ih (fun spec member => lowered spec (by simp [member])) distinct.2 read agrees.2
        rw [split, spelled, List.append_assoc, List.append_assoc, lower_append token, named,
          lower_append name, same, lower_append value, lower_append known]
        refine (mem_glob_word plain).mpr ⟨_, ?_, rfl⟩
        cases form with
        | star => exact mem_glob_star.mpr ⟨_, trivial, _, tail, rfl⟩
        | hex valueHex =>
            have concrete : upper value ≠ ['*'] := by
              intro star
              exact star_notMem_hex (isHex_upper valueHex.2) (by simp [star])
            have sameValue : lower value = lower known := by
              rw [← lower_upper valueHex.2, agrees.1.resolve_left concrete, lower_upper digits.2]
            rw [← sameValue]
            exact (mem_glob_word (star_notMem_hex (isHex_lower valueHex.2))).mpr ⟨_, tail, rfl⟩

end Fields

section Within

/-- All ten fields, each with a concrete value. -/
def IsFullModalias (text : Str) : Prop :=
  ∃ values, List.Forall₂ (fun spec value => IsHexOf spec.2 value) fieldSpecs values ∧
    text = usbText values

variable {values : List Str}

theorem lower_upper_usbText (fits : Fits fieldSpecs values) :
    lower (upper (usbText values)) = lower (usbText values) := by
  have digits : ∀ c ∈ hexDigits, c.toUpper.toLower = c.toLower := by decide
  have all : ∀ c ∈ usbText values, c.toUpper.toLower = c.toLower := by
    refine List.forall_mem_append.mpr ⟨by decide, ?_⟩
    exact forall_mem_spelled (by decide) fun value member =>
      forall_of_isHex (fits.mem_hex value member) digits
  rw [lower, upper, List.map_map]
  exact List.map_congr_left all

theorem globMatches_of_patternMatches {pattern : Str}
    (hex : List.Forall₂ (fun spec value => IsHexOf spec.2 value) fieldSpecs values)
    (usb : startsWith pattern "usb:" = true)
    (claims : patternMatches pattern (upper (usbText values)) = true) :
    globMatches (lower (pattern ++ ['*'])) (lower (upper (usbText values))) = true := by
  have fits : Fits fieldSpecs values := Fits.of_forall₂ (by decide) hex
  obtain ⟨body, split⟩ := startsWith_iff.mp usb
  obtain ⟨_, _, asks, knows, asksRead, knowsRead, entails⟩ := patternMatches_iff.mp claims
  rw [parseBody_usbText fits, Option.some.injEq] at knowsRead
  rw [entails_iff_fieldAgrees, ← knowsRead] at entails
  have dropped : pattern.drop 4 = body := by
    rw [split]
    rfl
  rw [dropped, parseBody] at asksRead
  have header : lower "usb:" = "usb:" := by decide
  rw [globMatches, Glob.accepts_iff, lower_upper_usbText fits, split, usbText, List.append_assoc,
    lower_append "usb:", lower_append "usb:", header]
  refine (mem_glob_word (by decide)).mpr ⟨lower (spelled fieldSpecs values), ?_, rfl⟩
  split at asksRead
  · rename_i star
    rw [star]
    exact mem_glob_star.mpr ⟨_, trivial, [], mem_glob_star.mpr
      ⟨[], trivial, [], Glob.mem_language_nil.mpr rfl, rfl⟩, List.append_nil _⟩
  · apply mem_glob_of_parseFields (by decide) (by decide) hex asksRead
    exact List.forall_mem_map.mpr entails

theorem asRows_text (lines : List Str) :
    asRows (lines.map .text) = lines.flatMap fun line => asRows [.text line] := by
  rw [asRows, List.flatMap_map]
  exact List.flatMap_congr fun line _ => (List.flatMap_singleton _ _).symm

theorem raw_of_mem_asRows {line : Str} {row : AliasLine} (member : row ∈ asRows [.text line]) :
    parseAliasLine line = some row := by
  simpa [asRows, parseAliasLines] using member

theorem asRows_raw_sublist (lines : List Str) :
    ((asRows (lines.map .text)).map AliasLine.raw).Sublist lines := by
  rw [asRows_text]
  induction lines with
  | nil => exact List.nil_sublist []
  | cons line lines ih =>
      rw [List.flatMap_cons, List.map_append]
      cases parsed : parseAliasLine line with
      | none =>
          have empty : asRows [.text line] = [] := by simp [asRows, parseAliasLines, parsed]
          rw [empty]
          exact ih.cons line
      | some row =>
          have single : asRows [.text line] = [row] := by simp [asRows, parseAliasLines, parsed]
          rw [single, List.map_cons, (parseAliasLine_eq_some_iff.mp parsed).1]
          exact ih.cons_cons line

/-- Whatever the lines contain, each line answers for itself, and a row that is returned
stands in its line and globs the modalias. -/
theorem matchWithLines_within_glob {modalias normalized : Str}
    (accepted : sanitizeModalias modalias = some normalized)
    (full : IsFullModalias (strip modalias)) (lines : List Str) :
    (matchWithLines modalias (lines.map .text) =
        lines.flatMap fun line => matchWithLines modalias [.text line]) ∧
      ((matchWithLines modalias (lines.map .text)).map AliasLine.raw).Sublist lines ∧
      ∀ row ∈ matchWithLines modalias (lines.map .text),
        IsRow row.raw row.pattern row.module ∧
          globMatches (lower (row.pattern ++ ['*'])) (lower normalized) = true := by
  have filtered : ∀ items, matchWithLines modalias items =
      (asRows items).filter fun row => patternMatches row.pattern normalized := by
    intro items
    rw [matchWithLines, accepted]
  refine ⟨?_, ?_, ?_⟩
  · rw [filtered, asRows_text, List.filter_flatMap]
    exact List.flatMap_congr fun line _ => (filtered [.text line]).symm
  · rw [filtered]
    exact (List.filter_sublist.map AliasLine.raw).trans (asRows_raw_sublist lines)
  · intro row member
    rw [filtered, List.mem_filter, asRows_text, List.mem_flatMap] at member
    obtain ⟨⟨line, _, inLine⟩, claims⟩ := member
    obtain ⟨sameRaw, shape⟩ := parseAliasLine_eq_some_iff.mp (raw_of_mem_asRows inLine)
    obtain ⟨values, hex, spelledText⟩ := full
    have normal : normalized = upper (usbText values) := by
      rw [sanitizeModalias] at accepted
      split at accepted
      · cases accepted
        rw [spelledText]
      · cases accepted
    rw [normal] at claims ⊢
    exact ⟨sameRaw ▸ shape, globMatches_of_patternMatches hex shape.1 claims⟩

theorem matchWithLines_within_glob_hostile :
    let lines : List Str := ["alias usb:v148fp760a* mt7601u", "alias usb:v????p[0-9]* evil",
      "alias\tusb:V148FP760AD*DC* mt76x0u\r\n", "usb:*"]
    let rows := matchWithLines " usb:v148fp760Ad0001dcEFdsc02dp01icFFiscFFipFFin00\n"
      (lines.map .text)
    rows.map (·.module) = ["mt76x0u".toList] ∧
      ∀ row ∈ rows, IsRow row.raw row.pattern row.module ∧ globMatches (lower (row.pattern ++ ['*']))
        (lower "USB:V148FP760AD0001DCEFDSC02DP01ICFFISCFFIPFFIN00") = true :=
  ⟨by decide +kernel,
    (matchWithLines_within_glob (by decide +kernel)
      ⟨["148f", "760A", "0001", "EF", "02", "01", "FF", "FF", "FF", "00"], by decide +kernel,
        by decide +kernel⟩ _).2.2⟩

end Within

end DongleRescue.Linux
