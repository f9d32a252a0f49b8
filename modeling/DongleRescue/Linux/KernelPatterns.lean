import DongleRescue.Linux.Bodies

namespace DongleRescue.Linux

open DongleRescue.Data

/-! Patterns that name all ten fields, as the kernel's alias tables write them, and
the part of them that the body parser reads. -/

/-- A value of a pattern field: any, one value, or the digits one starts with. -/
inductive PatternValue (width : Nat) : Str → Prop
  | any : PatternValue width ['*']
  | exact {value : Str} (hex : IsHexOf width value) : PatternValue width value
  | leading {digits : Str} (nonempty : digits ≠ []) (short : digits.length ≤ width)
      (hex : ∀ c ∈ digits, isHex c = true) : PatternValue width (digits ++ ['*'])

/-- No digits stand in front of a star. -/
def Unpinned (value : Str) : Prop := '*' ∈ value → value = ['*']

/-- Upper-case digits, as the kernel prints them. -/
def IsKernelValue (width : Nat) (value : Str) : Prop :=
  value.length = width ∧ ∀ c ∈ value, c ∈ upperDigits

instance (value : Str) : Decidable (Unpinned value) := inferInstanceAs (Decidable (_ → _))

instance (width : Nat) (value : Str) : Decidable (IsKernelValue width value) :=
  inferInstanceAs (Decidable (_ ∧ _))

section Values

variable {width : Nat} {value : Str}

theorem IsKernelValue.hex (kernel : IsKernelValue width value) : IsHexOf width value := by
  have all : ∀ c ∈ upperDigits, isHex c = true := by decide
  exact ⟨kernel.1, fun c member => all c (kernel.2 c member)⟩

theorem PatternValue.unpinned_iff (pattern : PatternValue width value) :
    Unpinned value ↔ value = ['*'] ∨ IsHexOf width value := by
  constructor
  · intro unpinned
    cases pattern with
    | any => exact .inl rfl
    | exact hex => exact .inr hex
    | leading => exact .inl (unpinned (by simp))
  · intro plain star
    rcases plain with any | hex
    · exact any
    · exact absurd star (star_notMem_hex hex.2)

end Values

section Read

variable {specs : List (Str × Nat)} {values : List Str}

theorem parseFields_unpinned (lowered : ∀ spec ∈ specs, lower spec.1 = spec.1 ∧ spec.1 ≠ [] ∧ 0 < spec.2)
    (plain : List.Forall₂ (fun spec value => value = ['*'] ∨ IsHexOf spec.2 value) specs values) :
    parseFields specs (spelled specs values) =
      some ((specs.map Prod.fst).zip (values.map upper)) := by
  have whole : IsBody (specs.take specs.length) values (spelled specs values) := by
    rw [List.take_length]
    exact ⟨plain, rfl⟩
  have read := parseFields_complete lowered whole
  rwa [List.take_length] at read

theorem parseFields_star_eq_none {rest : Str}
    (names : ∀ spec ∈ specs, spec.1 ≠ [] ∧ '*' ∉ spec.1) : parseFields specs ('*' :: rest) = none := by
  rw [← Option.not_isSome_iff_eq_none, Option.isSome_iff_exists]
  intro ⟨fields, parsed⟩
  cases specs with
  | nil =>
      rw [parseFields] at parsed
      cases parsed
  | cons spec specs =>
      obtain ⟨nonempty, plain⟩ := names spec (by simp)
      rcases parseFields_cons parsed with ⟨empty, _⟩ | ⟨token, value, stored, more, later, split, named, _⟩
      · cases empty
      · cases token with
        | nil => exact nonempty named.symm
        | cons c token =>
            cases split
            exact plain (by simp [← named, lower])

/-- One value is read whole, or the reading ends in it. -/
theorem FieldText.value_eq {width : Nat} {value first stored rest more : Str} (positive : 0 < width)
    (form : FieldText width first stored) (shape : PatternValue width value)
    (split : value ++ more = first ++ rest) :
    Unpinned value ∧ rest = more ∨ ∃ tail, rest = '*' :: tail := by
  have notStar : ∀ {text tail tail' : Str}, text ≠ [] → (∀ c ∈ text, isHex c = true) →
      text ++ tail ≠ '*' :: tail' := by
    intro text tail tail' nonempty hex same
    obtain ⟨c, chars, consText⟩ := List.exists_cons_of_ne_nil nonempty
    rw [consText] at same
    cases same
    exact star_notMem_hex hex (by simp [consText])
  have filled : ∀ {text : Str}, IsHexOf width text → text ≠ [] := by
    intro text hex empty
    rw [empty] at hex
    exact absurd hex.1 positive.ne
  cases form with
  | star =>
      cases shape with
      | any => exact .inl ⟨fun _ => rfl, (List.append_cancel_left split).symm⟩
      | exact hex => exact absurd split (notStar (filled hex) hex.2)
      | leading nonempty _ hex =>
          rw [List.append_assoc] at split
          exact absurd split (notStar nonempty hex)
  | hex firstHex =>
      cases shape with
      | any => exact absurd split.symm (notStar (filled firstHex) firstHex.2)
      | exact hex =>
          obtain ⟨_, same⟩ := List.append_inj split (hex.1.trans firstHex.1.symm)
          exact .inl ⟨fun star => absurd star (star_notMem_hex hex.2), same.symm⟩
      | @leading digits nonempty short hex =>
          rw [List.append_assoc] at split
          rcases List.append_eq_append_iff.mp split with ⟨more', longer, starSplit⟩ | ⟨more', shorter, starSplit⟩
          · match more' with
            | [] => exact .inr ⟨more, starSplit.symm⟩
            | c :: more' =>
                cases starSplit
                exact absurd (by simp [longer]) (star_notMem_hex firstHex.2)
          · have none : more' = [] := by
              have lengths : digits.length = first.length + more'.length := by simp [shorter]
              rw [firstHex.1] at lengths
              exact List.eq_nil_of_length_eq_zero (by omega)
            rw [none] at starSplit
            exact .inr ⟨more, starSplit⟩

/-- A value with digits in front of a star ends the reading: too few digits are
read into the star, enough of them leave it where a name must stand. -/
theorem unpinned_of_parseFields {fields : List (Str × Str)}
    (names : ∀ spec ∈ specs, (spec.1 ≠ [] ∧ '*' ∉ spec.1) ∧ 0 < spec.2)
    (shapes : List.Forall₂ (fun spec value => PatternValue spec.2 value) specs values)
    (parsed : parseFields specs (spelled specs values) = some fields) :
    ∀ value ∈ values, Unpinned value := by
  induction shapes generalizing fields with
  | nil => simp
  | @cons spec value specs values shape _ ih =>
      obtain ⟨name, width⟩ := spec
      obtain ⟨⟨nonempty, _⟩, positive⟩ := names (name, width) (by simp)
      have later : ∀ spec ∈ specs, (spec.1 ≠ [] ∧ '*' ∉ spec.1) ∧ 0 < spec.2 :=
        fun spec member => names spec (by simp [member])
      rw [spelled] at parsed
      rcases parseFields_cons parsed with ⟨empty, _⟩ | ⟨token, first, stored, rest, tail, split, named,
        form, read, _⟩
      · exact absurd (List.append_eq_nil_iff.mp empty).1 nonempty
      · have length : name.length = token.length := by simp [← named, lower]
        obtain ⟨_, valueSplit⟩ := List.append_inj split length
        rcases form.value_eq positive shape valueSplit with ⟨unpinned, same⟩ | ⟨more, star⟩
        · rw [same] at read
          exact List.forall_mem_cons.mpr ⟨unpinned, ih later read⟩
        · rw [star, parseFields_star_eq_none fun spec member => (later spec member).1] at read
          cases read

end Read

section Globbing

/-- The characters of the names, as opposed to those of the values. -/
def isNameChar (c : Char) : Bool := !upperDigits.contains c

variable {specs : List (Str × Nat)} {patternValues values : List Str}

theorem IsKernelValue.unmarked {width : Nat} {value : Str} (kernel : IsKernelValue width value) :
    ∀ c ∈ value, isNameChar c = false := by
  intro c member
  simpa [isNameChar] using kernel.2 c member

/-- The names alone make up the name characters of a modalias, so a pattern with the
same names has no fewer of them. -/
theorem countP_spelled_le (names : ∀ spec ∈ specs, '*' ∉ spec.1)
    (kernel : List.Forall₂ (fun spec value => IsKernelValue spec.2 value) specs values)
    (same : patternValues.length = specs.length) :
    (spelled specs values).countP isNameChar ≤
      (glob (spelled specs patternValues)).reduceOption.countP isNameChar := by
  induction kernel generalizing patternValues with
  | nil => simp [spelled]
  | @cons spec value specs values digits _ ih =>
      cases patternValues with
      | nil => cases same
      | cons patternValue patternValues =>
          have tail := ih (fun spec member => names spec (by simp [member])) (Nat.succ.inj same)
          have none : value.countP isNameChar = 0 :=
            List.countP_eq_zero.mpr fun c member => by simp [digits.unmarked c member]
          have word : (spec.1.map some).reduceOption = spec.1 := by
            simp [List.reduceOption, List.filterMap_map]
          rw [spelled, spelled, List.countP_append, List.countP_append, none, glob_append, glob_append,
            glob_word (names spec (by simp)), List.reduceOption_append, List.reduceOption_append, word,
            List.countP_append, List.countP_append]
          omega

/-- What such a pattern globs starts with the first name. -/
theorem head_of_mem_glob {wild : Language Char} {text : Str}
    (names : ∀ spec ∈ specs, '*' ∉ spec.1 ∧ ∃ c ∈ spec.1.head?, isNameChar c = true)
    (member : text ∈ Glob.language wild (glob (spelled specs values))) :
    ∀ c ∈ text.head?, isNameChar c = true := by
  have empty : ∀ {text : Str}, text ∈ Glob.language wild (glob []) →
      ∀ c ∈ text.head?, isNameChar c = true := by
    intro text inEmpty c first
    rw [Glob.mem_language_nil.mp inEmpty] at first
    cases first
  match specs, values with
  | [], _ => exact empty member
  | spec :: _, [] => exact empty member
  | spec :: _, value :: _ =>
      obtain ⟨plain, d, head, marked⟩ := names spec (by simp)
      obtain ⟨tail, split⟩ := List.head?_eq_some_iff.mp head
      rw [spelled] at member
      obtain ⟨rest, _, same⟩ := (mem_glob_word plain).mp member
      intro c first
      rw [← same, split] at first
      cases first
      exact marked

theorem star_notMem_spelled (names : ∀ spec ∈ specs, '*' ∉ spec.1)
    (kernel : List.Forall₂ (fun spec value => IsKernelValue spec.2 value) specs values) :
    '*' ∉ spelled specs values := by
  induction kernel with
  | nil => simp [spelled]
  | @cons spec value specs values digits _ ih =>
      have tail := ih fun spec member => names spec (by simp [member])
      rw [spelled, List.mem_append, List.mem_append, not_or, not_or]
      exact ⟨names spec (by simp), star_notMem_hex digits.hex.2, tail⟩

theorem span_value {value rest : Str} (unmarked : ∀ c ∈ value, isNameChar c = false)
    (head : ∀ c ∈ rest.head?, isNameChar c = true) :
    (value ++ rest).span (!isNameChar ·) = (value, rest) :=
  span_exact (fun c member => by simp [unmarked c member]) fun c first => by simp [head c first]

/-- When the stars stand for digits, the names of the pattern and of the modalias meet
one by one, and each star stands for one whole value. -/
theorem fieldAgrees_of_glob
    (names : ∀ spec ∈ specs, '*' ∉ spec.1 ∧ ∃ c ∈ spec.1.head?, isNameChar c = true)
    (distinct : (specs.map Prod.fst).Nodup)
    (plain : List.Forall₂ (fun spec value => value = ['*'] ∨ IsHexOf spec.2 value) specs patternValues)
    (kernel : List.Forall₂ (fun spec value => IsKernelValue spec.2 value) specs values)
    (member : spelled specs values ∈ Glob.language {front | ∀ c ∈ front, isNameChar c = false}
      (glob (spelled specs patternValues))) :
    ∀ name ∈ specs.map Prod.fst,
      fieldAgrees ((specs.map Prod.fst).zip (patternValues.map upper))
        ((specs.map Prod.fst).zip (values.map upper)) name = true := by
  induction plain generalizing values with
  | nil => simp
  | @cons spec patternValue specs patternValues shape _ ih =>
      cases kernel with
      | @cons _ value _ values digits kernel =>
          have later : ∀ spec ∈ specs, '*' ∉ spec.1 ∧ ∃ c ∈ spec.1.head?, isNameChar c = true :=
            fun spec member => names spec (by simp [member])
          have heads : ∀ spec ∈ specs, ∃ c ∈ spec.1.head?, isNameChar c = true :=
            fun spec member => (later spec member).2
          rw [List.map_cons, List.nodup_cons] at distinct
          rw [spelled, spelled] at member
          obtain ⟨tail, inTail, nameSplit⟩ := (mem_glob_word (names spec (by simp)).1).mp member
          rw [List.append_cancel_left nameSplit] at inTail
          rw [List.map_cons, List.map_cons, List.map_cons, List.zip_cons_cons, List.zip_cons_cons,
            forall_fieldAgrees_cons distinct.1]
          rcases shape with any | hex
          · rw [any, List.singleton_append] at inTail
            obtain ⟨front, unmarked, rest, inRest, split⟩ := mem_glob_star.mp inTail
            have inSpelled : spelled specs values ∈
                Glob.language ⊤ (glob (spelled specs values)) := by
              rw [glob_word (star_notMem_spelled (fun spec member => (later spec member).1) kernel)]
              exact Glob.mem_language_letters _
            have whole : (value, spelled specs values) = (front, rest) := by
              rw [← span_value digits.unmarked (head_of_mem_glob later inSpelled), ← split]
              exact span_value unmarked (head_of_mem_glob later inRest)
            obtain ⟨_, sameRest⟩ := Prod.mk.inj whole
            rw [← sameRest] at inRest
            exact ⟨.inl (by rw [any]; rfl), ih later distinct.2 kernel inRest⟩
          · obtain ⟨rest, inRest, split⟩ := (mem_glob_word (star_notMem_hex hex.2)).mp inTail
            obtain ⟨sameValue, sameRest⟩ := List.append_inj split (hex.1.trans digits.1.symm)
            rw [sameRest] at inRest
            exact ⟨.inr (by rw [sameValue]), ih later distinct.2 kernel inRest⟩

end Globbing

section Rows

variable {patternValues values : List Str} {line module : Str}

theorem IsKernelValue.fits
    (kernel : List.Forall₂ (fun spec value => IsKernelValue spec.2 value) fieldSpecs values) :
    Fits fieldSpecs values :=
  Fits.of_forall₂ (by decide) (kernel.imp fun _ _ digits => digits.hex)

theorem fieldAgrees_of_globMatches
    (plain : List.Forall₂ (fun spec value => value = ['*'] ∨ IsHexOf spec.2 value) fieldSpecs
      patternValues)
    (kernel : List.Forall₂ (fun spec value => IsKernelValue spec.2 value) fieldSpecs values)
    (globs : globMatches (usbText patternValues) (usbText values) = true) :
    ∀ name ∈ fieldNames, fieldAgrees (fieldNames.zip (patternValues.map upper))
      (fieldNames.zip (values.map upper)) name = true := by
  have names : ∀ spec ∈ fieldSpecs, '*' ∉ spec.1 ∧ ∃ c ∈ spec.1.head?, isNameChar c = true := by
    simp only [fieldSpecs, List.forall_mem_cons]
    simp
    decide
  rw [globMatches, Glob.accepts_iff, usbText] at globs
  obtain ⟨tail, inTail, split⟩ := (mem_glob_word (by decide)).mp globs
  rw [List.append_cancel_left split] at inTail
  refine fieldAgrees_of_glob names (by decide) plain kernel (Glob.mem_language_unmarked inTail ?_)
  exact countP_spelled_le (by decide) kernel plain.length_eq.symm

theorem patternMatches_iff_unpinned
    (shapes : List.Forall₂ (fun spec value => PatternValue spec.2 value) fieldSpecs patternValues)
    (kernel : List.Forall₂ (fun spec value => IsKernelValue spec.2 value) fieldSpecs values)
    (globs : globMatches (usbText patternValues) (usbText values) = true) :
    patternMatches (usbText patternValues) (upper (usbText values)) = true ↔
      ∀ value ∈ patternValues, Unpinned value := by
  have body : (usbText patternValues).drop 4 = spelled fieldSpecs patternValues := rfl
  rw [patternMatches_iff, body, parseBody_spelled, parseBody_usbText (IsKernelValue.fits kernel)]
  constructor
  · intro ⟨_, _, asks, _, parsed, _⟩
    exact unpinned_of_parseFields (by decide) shapes parsed
  · intro unpinned
    have plain : List.Forall₂ (fun spec value => value = ['*'] ∨ IsHexOf spec.2 value) fieldSpecs
        patternValues := by
      have both := (List.forall₂_and_left _ _).mpr ⟨unpinned, shapes.flip⟩
      exact both.flip.imp fun _ _ ⟨free, shape⟩ => shape.unpinned_iff.mp free
    have long : 4 < (usbText patternValues).length := by
      match patternValues, shapes with
      | value :: patternValues, _ => simp [usbText, fieldSpecs, spelled]
    refine ⟨startsWith_append _ _, long, _, _, parseFields_unpinned (by decide) plain, rfl, ?_⟩
    rw [entails_iff_fieldAgrees]
    exact List.forall_mem_map.mp (fieldAgrees_of_globMatches plain kernel globs)

/-- A row of the kernel is found, whatever stands around it, just when none of its values
has digits in front of a star. -/
theorem match_kernel_row_iff
    (shapes : List.Forall₂ (fun spec value => PatternValue spec.2 value) fieldSpecs patternValues)
    (kernel : List.Forall₂ (fun spec value => IsKernelValue spec.2 value) fieldSpecs values)
    (row : IsRow line (usbText patternValues) module)
    (globs : globMatches (usbText patternValues) (usbText values) = true) :
    (∀ lines : List Str, line ∈ lines → module ∈ «match» (usbText values) (lines.map .text)) ↔
      ∀ value ∈ patternValues, Unpinned value := by
  have matched : ∀ items, matchWithLines (usbText values) items = _ :=
    matchWithLines_usbText (IsKernelValue.fits kernel) (by simp [← kernel.length_eq, fieldSpecs])
  have parsed : parseAliasLine line = some ⟨usbText patternValues, module, line⟩ :=
    parseAliasLine_eq_some_iff.mpr ⟨rfl, row⟩
  rw [← patternMatches_iff_unpinned shapes kernel globs]
  constructor
  · intro found
    obtain ⟨row, member, _⟩ := List.mem_map.mp (found [line] (by simp))
    rw [matched, List.mem_filter] at member
    obtain ⟨inLine, claims⟩ := member
    have same := raw_of_mem_asRows inLine
    rw [parsed, Option.some.injEq] at same
    rw [← same] at claims
    exact claims
  · intro claims lines member
    refine List.mem_map.mpr ⟨⟨usbText patternValues, module, line⟩, ?_, rfl⟩
    rw [matched, List.mem_filter, asRows_text, List.mem_flatMap]
    exact ⟨⟨line, member, by simp [asRows, parseAliasLines, parsed]⟩, claims⟩

def goldenValues : List Str := ["148F", "760A", "0200", "00", "00", "00", "FF", "FF", "FF", "00"]

def wildRow : List Str := ["148F", "760A", "*", "*", "*", "*", "FF", "*", "*", "*"]

/-- The row of a driver that asks for one revision. -/
def pinnedRow : List Str := ["148F", "760A", "0200*", "*", "*", "*", "*", "*", "*", "*"]

theorem match_wildRow :
    "mt7601u".toList ∈ «match» (usbText goldenValues)
      ([Spacing.plain.row (usbText wildRow) "mt7601u"].map .text) :=
  (match_kernel_row_iff
    (.cons (.exact (by decide)) <| .cons (.exact (by decide)) <| .cons .any <| .cons .any <|
      .cons .any <| .cons .any <| .cons (.exact (by decide)) <| .cons .any <| .cons .any <|
      .cons .any .nil)
    (by decide) ⟨rfl, by decide, by decide, Spacing.plain, rfl⟩ (by decide +kernel)).mpr
    (by decide) _ (List.mem_singleton_self _)

theorem match_pinnedRow :
    List.Forall₂ (fun spec value => PatternValue spec.2 value) fieldSpecs pinnedRow ∧
      List.Forall₂ (fun spec value => IsKernelValue spec.2 value) fieldSpecs goldenValues ∧
      IsRow (Spacing.plain.row (usbText pinnedRow) "mt7601u") (usbText pinnedRow) "mt7601u" ∧
      globMatches (usbText pinnedRow) (usbText goldenValues) = true ∧
      «match» (usbText goldenValues)
        [.text (Spacing.plain.row (usbText pinnedRow) "mt7601u")] = [] := by
  have revision : PatternValue 4 ("0200".toList ++ ['*']) :=
    .leading (by decide) (by decide) (by decide)
  have shapes : List.Forall₂ (fun spec value => PatternValue spec.2 value) fieldSpecs pinnedRow :=
    .cons (.exact (by decide)) <| .cons (.exact (by decide)) <| .cons revision <| .cons .any <|
      .cons .any <| .cons .any <| .cons .any <| .cons .any <| .cons .any <| .cons .any .nil
  exact ⟨shapes, by decide, ⟨rfl, by decide, by decide, Spacing.plain, rfl⟩, by decide +kernel,
    by decide +kernel⟩

end Rows

end DongleRescue.Linux
