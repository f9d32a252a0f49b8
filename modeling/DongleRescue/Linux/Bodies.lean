import Mathlib
import DongleRescue.Linux.Globs

namespace DongleRescue.Linux

open DongleRescue.Data

/-! The bodies that the parser reads: the first fields of the list, each with a value,
in whatever case. -/

section Casing

variable {c : Char} {text other : Str}

theorem upper_of_lower_eq (same : lower text = lower other) : upper text = upper other := by
  have folded : ∀ text : Str, upper (lower text) = upper text := by
    intro text
    rw [upper, lower, List.map_map]
    exact List.map_congr_left fun c _ => c.toUpper_toLower_eq_toUpper
  rw [← folded text, same, folded]

theorem lower_of_upper (text : Str) : lower (upper text) = lower text := by
  rw [lower, upper, List.map_map]
  exact List.map_congr_left fun c _ => c.toLower_toUpper_eq_toLower

theorem isHex_of_toLower (hex : isHex c.toLower = true) : isHex c = true := by
  by_cases capital : c.isUpper
  · have raised : c.toLower.toUpper = c := by
      rw [Char.toUpper_toLower_eq_toUpper, Char.toUpper_eq_of_not_isLower (Char.not_isLower_of_isUpper capital)]
    have all : ∀ d ∈ hexDigits, isHex d.toUpper = true := by decide
    exact raised ▸ all _ (List.contains_iff_mem.mp hex)
  · rwa [Char.toLower_eq_of_not_isUpper capital] at hex

theorem eq_of_toLower {mark : Char} (unlettered : mark.isAlpha = false) (same : c.toLower = mark) : c = mark := by
  have capital : ¬ c.isUpper := by
    intro capital
    rw [← same, Char.isAlpha_toLower_eq_isAlpha, Char.isAlpha, capital] at unlettered
    cases unlettered
  rwa [Char.toLower_eq_of_not_isUpper capital] at same

theorem IsHexOf.of_lower_eq {width : Nat} (hex : IsHexOf width text) (same : lower other = lower text) :
    IsHexOf width other := by
  have length : other.length = text.length := by simpa [lower] using congrArg List.length same
  refine ⟨length.trans hex.1, fun c member => isHex_of_toLower ?_⟩
  have lowered : c.toLower ∈ lower text := same ▸ List.mem_map_of_mem member
  exact isHex_lower hex.2 _ lowered

theorem lower_eq_star (same : lower text = ['*']) : text = ['*'] := by
  obtain ⟨c, rfl, star⟩ := List.map_eq_singleton_iff.mp same
  rw [eq_of_toLower (by decide) star]

end Casing

/-- A text that is, up to case, the fields one after the other: each name, then `*` or the digits
of a value. -/
def IsBody (specs : List (Str × Nat)) (values : List Str) (body : Str) : Prop :=
  List.Forall₂ (fun spec value => value = ['*'] ∨ IsHexOf spec.2 value) specs values ∧
    lower body = lower (spelled specs values)

def bodyFields (specs : List (Str × Nat)) (values : List Str) : List (Str × Str) :=
  (specs.map Prod.fst).zip (values.map upper)

section Reading

variable {specs : List (Str × Nat)} {values : List Str} {name value text rest : Str} {width k : Nat}
  {fields : List (Str × Str)}

theorem isBody_nil_iff : IsBody [] values text ↔ values = [] ∧ text = [] := by
  constructor
  · rintro ⟨shaped, same⟩
    cases shaped
    exact ⟨rfl, List.map_eq_nil_iff.mp same⟩
  · rintro ⟨rfl, rfl⟩
    exact ⟨.nil, rfl⟩

theorem isBody_cons_iff (lowered : lower name = name) :
    IsBody ((name, width) :: specs) values text ↔ ∃ token read rest value later,
      text = token ++ (read ++ rest) ∧ lower token = name ∧ lower read = lower value ∧
        (value = ['*'] ∨ IsHexOf width value) ∧ values = value :: later ∧ IsBody specs later rest := by
  constructor
  · rintro ⟨shaped, same⟩
    cases shaped with
    | @cons _ value _ later shape tail =>
        rw [spelled, lower_append, lower_append, lowered] at same
        obtain ⟨token, more, split, named, same⟩ := List.map_eq_append_iff.mp same
        obtain ⟨read, rest, split', valued, same⟩ := List.map_eq_append_iff.mp same
        exact ⟨token, read, rest, value, later, by rw [split, split'], named, valued, shape, rfl, tail, same⟩
  · rintro ⟨token, read, rest, value, later, rfl, named, valued, shape, rfl, tail, same⟩
    refine ⟨.cons shape tail, ?_⟩
    rw [spelled, lower_append, lower_append, lower_append, lower_append, named, lowered, valued, same]

theorem parseFields_sound (lowered : ∀ spec ∈ specs, lower spec.1 = spec.1)
    (parsed : parseFields specs text = some fields) :
    ∃ k ≤ specs.length, ∃ values, IsBody (specs.take k) values text ∧ fields = bodyFields (specs.take k) values := by
  induction specs generalizing text fields with
  | nil =>
      rw [parseFields] at parsed
      split at parsed
      · rename_i empty
        cases parsed
        exact ⟨0, le_rfl, [], isBody_nil_iff.mpr ⟨rfl, empty⟩, rfl⟩
      · cases parsed
  | cons spec specs ih =>
      obtain ⟨name, width⟩ := spec
      rcases parseFields_cons parsed with ⟨empty, none⟩ | ⟨token, value, stored, rest, later, split, named,
        form, read, same⟩
      · exact ⟨0, Nat.zero_le _, [], isBody_nil_iff.mpr ⟨rfl, empty⟩, none⟩
      · obtain ⟨k, short, values, spells, laterEq⟩ := ih (fun spec member => lowered spec (by simp [member])) read
        have shape : (value = ['*'] ∨ IsHexOf width value) ∧ stored = upper value := by
          cases form with
          | star => exact ⟨.inl rfl, rfl⟩
          | hex digits => exact ⟨.inr digits, rfl⟩
        refine ⟨k + 1, Nat.succ_le_succ short, value :: values, ?_, ?_⟩
        · exact (isBody_cons_iff (lowered (name, width) (by simp))).mpr
            ⟨token, value, rest, value, values, split, named, rfl, shape.1, rfl, spells⟩
        · rw [same, laterEq, shape.2]
          rfl

theorem parseFields_complete (lowered : ∀ spec ∈ specs, lower spec.1 = spec.1 ∧ spec.1 ≠ [] ∧ 0 < spec.2)
    (spells : IsBody (specs.take k) values text) :
    parseFields specs text = some (bodyFields (specs.take k) values) := by
  induction specs generalizing k values text with
  | nil =>
      rw [List.take_nil, isBody_nil_iff] at spells
      rw [List.take_nil, spells.1, spells.2]
      rfl
  | cons spec specs ih =>
      obtain ⟨name, width⟩ := spec
      obtain ⟨same, nonempty, positive⟩ := lowered (name, width) (by simp)
      cases k with
      | zero =>
          rw [List.take_zero, isBody_nil_iff] at spells
          rw [spells.1, spells.2]
          rfl
      | succ k =>
          obtain ⟨token, read, rest, value, later, rfl, named, valued, shape, rfl, spelt⟩ :=
            (isBody_cons_iff same).mp spells
          have tail := ih (fun spec member => lowered spec (by simp [member])) spelt
          have named' : token ≠ [] := by
            rintro rfl
            exact nonempty named.symm
          have stored : bodyFields ((name, width) :: specs.take k) (value :: later) =
              (name, upper value) :: bodyFields (specs.take k) later := rfl
          rw [List.take_succ_cons, stored]
          rcases shape with any | hex
          · have star : read = ['*'] := lower_eq_star (valued.trans (congrArg lower any))
            rw [star, List.singleton_append, parseFields_star named named', tail, any]
            rfl
          · rw [parseFields_value named named' positive (hex.of_lower_eq valued), tail, upper_of_lower_eq valued]
            rfl

end Reading

section Injectivity

variable {specs : List (Str × Nat)} {values : List Str} {fields others : List (Str × Str)} {names : List Str}
  {body other : Str}

/-- Fields in the order of one list of names are told apart by what they say of a name. -/
theorem fields_eq_of_fieldValue_eq (distinct : names.Nodup) (first : fields.map Prod.fst <+: names)
    (second : others.map Prod.fst <+: names) (same : ∀ name, fieldValue fields name = fieldValue others name) :
    fields = others := by
  induction names generalizing fields others with
  | nil => rw [List.map_eq_nil_iff.mp (List.prefix_nil.mp first), List.map_eq_nil_iff.mp (List.prefix_nil.mp second)]
  | cons name names ih =>
      obtain ⟨fresh, apart⟩ := List.nodup_cons.mp distinct
      cases fields with
      | nil =>
          cases others with
          | nil => rfl
          | cons field others =>
              have absent := (same field.1).symm.trans (fieldValue_eq_none_iff.mpr List.not_mem_nil)
              exact absurd (by simp) (fieldValue_eq_none_iff.mp absent)
      | cons field fields =>
          cases others with
          | nil =>
              have absent := (same field.1).trans (fieldValue_eq_none_iff.mpr List.not_mem_nil)
              exact absurd (by simp) (fieldValue_eq_none_iff.mp absent)
          | cons field' others =>
              obtain ⟨key, value⟩ := field
              obtain ⟨key', value'⟩ := field'
              obtain ⟨head, inFirst⟩ := List.cons_prefix_cons.mp first
              obtain ⟨head', inSecond⟩ := List.cons_prefix_cons.mp second
              dsimp only at head head'
              subst head head'
              have here := same key'
              rw [fieldValue_cons_self, fieldValue_cons_self] at here
              have later : ∀ name, fieldValue fields name = fieldValue others name := by
                intro name
                by_cases own : key' = name
                · subst own
                  rw [fieldValue_eq_none_iff.mpr fun member => fresh (inFirst.subset member),
                    fieldValue_eq_none_iff.mpr fun member => fresh (inSecond.subset member)]
                · have there := same name
                  rwa [fieldValue_cons_of_ne own, fieldValue_cons_of_ne own] at there
              rw [ih apart inFirst inSecond later, Option.some.inj here]

theorem map_fst_bodyFields (spells : IsBody specs values body) :
    (bodyFields specs values).map Prod.fst = specs.map Prod.fst := by
  refine List.map_fst_zip ?_
  simp [spells.1.length_eq]

theorem map_snd_bodyFields (spells : IsBody specs values body) :
    (bodyFields specs values).map Prod.snd = values.map upper := by
  refine List.map_snd_zip ?_
  simp [spells.1.length_eq]

theorem lower_spelled_upper : lower (spelled specs (values.map upper)) = lower (spelled specs values) := by
  induction specs generalizing values with
  | nil => rfl
  | cons spec specs ih =>
      cases values with
      | nil => rfl
      | cons value values =>
          rw [List.map_cons, spelled, spelled, lower_append, lower_append, lower_append, lower_append,
            lower_of_upper, ih]

theorem lower_eq_of_bodyFields_eq {values' : List Str} {k k' : Nat} (spells : IsBody (specs.take k) values body)
    (spells' : IsBody (specs.take k') values' other)
    (same : bodyFields (specs.take k) values = bodyFields (specs.take k') values') : lower body = lower other := by
  have names : (specs.take k).map Prod.fst = (specs.take k').map Prod.fst := by
    rw [← map_fst_bodyFields spells, same, map_fst_bodyFields spells']
  have taken : specs.take k = specs.take k' := by
    rw [List.take_eq_take_iff]
    simpa using congrArg List.length names
  have uppers : values.map upper = values'.map upper := by
    rw [← map_snd_bodyFields spells, same, map_snd_bodyFields spells']
  rw [spells.2, spells'.2, ← lower_spelled_upper, uppers, taken, lower_spelled_upper]

end Injectivity

section FieldList

variable {body : Str} {fields : List (Str × Str)}

theorem parseBody_of_isBody {k : Nat} {values : List Str} (bare : body ≠ ['*'])
    (spells : IsBody (fieldSpecs.take k) values body) :
    parseBody body = some (bodyFields (fieldSpecs.take k) values) := by
  rw [parseBody, if_neg bare]
  exact parseFields_complete (by decide) spells

theorem parseBody_eq_some_iff (bare : body ≠ ['*']) : parseBody body = some fields ↔
    ∃ k ≤ 10, ∃ values, IsBody (fieldSpecs.take k) values body ∧ fields = bodyFields (fieldSpecs.take k) values := by
  constructor
  · intro parsed
    rw [parseBody, if_neg bare] at parsed
    exact parseFields_sound (by decide) parsed
  · rintro ⟨k, _, values, spells, rfl⟩
    exact parseBody_of_isBody bare spells

theorem parseBody_recognises (bare : body ≠ ['*']) :
    ((∃ fields, parseBody body = some fields) ↔ ∃ k ≤ 10, ∃ values, IsBody (fieldSpecs.take k) values body) ∧
      (∀ k values, IsBody (fieldSpecs.take k) values body →
        parseBody body = some (bodyFields (fieldSpecs.take k) values)) ∧
      ∀ other fields others, other ≠ ['*'] → parseBody body = some fields → parseBody other = some others →
        (∀ name, fieldValue fields name = fieldValue others name) → lower body = lower other := by
  refine ⟨?_, fun k values => parseBody_of_isBody bare, ?_⟩
  · constructor
    · rintro ⟨fields, parsed⟩
      obtain ⟨k, short, values, spells, _⟩ := (parseBody_eq_some_iff bare).mp parsed
      exact ⟨k, short, values, spells⟩
    · rintro ⟨k, _, values, spells⟩
      exact ⟨_, parseBody_of_isBody bare spells⟩
  · intro other fields others bare' parsed parsed' same
    obtain ⟨k, _, values, spells, rfl⟩ := (parseBody_eq_some_iff bare).mp parsed
    obtain ⟨k', _, values', spells', rfl⟩ := (parseBody_eq_some_iff bare').mp parsed'
    have inOrder : ∀ {k values body}, IsBody (fieldSpecs.take k) values body →
        (bodyFields (fieldSpecs.take k) values).map Prod.fst <+: fieldNames := by
      intro k values body spells
      rw [map_fst_bodyFields spells]
      exact (List.take_prefix k fieldSpecs).map Prod.fst
    exact lower_eq_of_bodyFields_eq spells spells'
      (fields_eq_of_fieldValue_eq (by decide) (inOrder spells) (inOrder spells') same)

theorem parseBody_recognises_two :
    parseBody "V0bDap*" = some [(("v" : Str), ("0BDA" : Str)), (("p" : Str), ("*" : Str))] :=
  (parseBody_recognises (by decide)).2.1 2 ["0bda", "*"]
    ⟨.cons (.inr (by decide)) (.cons (.inl rfl) .nil), by decide⟩

end FieldList

end DongleRescue.Linux
