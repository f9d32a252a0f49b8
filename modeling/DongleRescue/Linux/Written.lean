import DongleRescue.Linux.Globs

namespace DongleRescue.Linux

open DongleRescue.Data

/-! The modaliases that the grammar accepts, as the fields written in them, and those
of them that the body parser reads: the grammar lets a field be left out, the parser
takes a field that is left out for the last one. -/

/-- Two digits, or a star where the group takes one. -/
def GroupValue (star : Bool) (value : Str) : Prop := IsHexOf 2 value ∨ (star = true ∧ value = ['*'])

instance (star : Bool) (value : Str) : Decidable (GroupValue star value) :=
  inferInstanceAs (Decidable (_ ∨ _))

/-- Nothing stands in the text for a group without a value. -/
def writtenText : List (Str × Bool) → List (Option Str) → Str
  | (name, _) :: groups, some value :: values => name ++ (value ++ writtenText groups values)
  | _ :: groups, none :: values => writtenText groups values
  | _, _ => []

def writtenFields : List (Str × Bool) → List (Option Str) → List (Str × Str)
  | (name, _) :: groups, some value :: values => (name, value) :: writtenFields groups values
  | _ :: groups, none :: values => writtenFields groups values
  | _, _ => []

def upperFields (fields : List (Str × Str)) : List (Str × Str) :=
  fields.map fun field => (field.1, upper field.2)

/-- Each value is one the group may hold. -/
abbrev Holds : List (Str × Bool) → List (Option Str) → Prop :=
  List.Forall₂ fun group value => ∀ text, value = some text → GroupValue group.2 text

/-- No written field stands behind one that is left out. -/
def Gapless (values : List (Option Str)) : Prop :=
  values.Pairwise fun earlier later => later.isSome = true → earlier.isSome = true

instance (values : List (Option Str)) : Decidable (Gapless values) :=
  inferInstanceAs (Decidable (List.Pairwise _ values))

/-- Names that no text can both start with, none of them empty. -/
structure Apart (groups : List (Str × Bool)) : Prop where
  named : ∀ group ∈ groups, group.1 ≠ []
  apart : groups.Pairwise fun first second => ¬ first.1 <+: second.1 ∧ ¬ second.1 <+: first.1

theorem Apart.tail {group : Str × Bool} {groups : List (Str × Bool)} (apart : Apart (group :: groups)) :
    Apart groups :=
  ⟨fun later member => apart.named later (by simp [member]), (List.pairwise_cons.mp apart.apart).2⟩

theorem apart_optionalGroups : Apart optionalGroups := ⟨by decide, by decide⟩

section Language

variable {name text : Str} {star : Bool} {groups : List (Str × Bool)} {values : List (Option Str)}

theorem requiredGroup_eq_some_iff {width : Nat} {rest : Str} :
    requiredGroup name width text = some rest ↔
      ∃ value, IsHexOf width value ∧ text = name ++ (value ++ rest) := by
  constructor
  · intro read
    rw [requiredGroup] at read
    split at read
    · rename_i shape
      rw [Bool.and_eq_true, Bool.and_eq_true, decide_eq_true_eq, List.all_eq_true] at shape
      obtain ⟨⟨start, long⟩, hex⟩ := shape
      obtain ⟨after, split⟩ := startsWith_iff.mp start
      have dropped : text.drop name.length = after := by rw [split, List.drop_left]
      rw [dropped] at long hex read
      have rest := Option.some.inj read
      refine ⟨after.take width, ⟨long, hex⟩, ?_⟩
      rw [split, ← rest, List.take_append_drop]
    · cases read
  · rintro ⟨value, hex, split⟩
    rw [split]
    exact requiredGroup_read hex

/-- An optional group takes its name with a value, or leaves the text alone. -/
theorem optionalGroup_cases (name : Str) (star : Bool) (text : Str) :
    (∃ value, GroupValue star value ∧ text = name ++ (value ++ optionalGroup name star text)) ∨
      optionalGroup name star text = text := by
  rw [optionalGroup]
  split
  · rename_i starred
    rw [Bool.and_eq_true, Bool.and_eq_true] at starred
    obtain ⟨⟨start, allowed⟩, marked⟩ := starred
    obtain ⟨after, split⟩ := startsWith_iff.mp start
    have dropped : text.drop name.length = after := by rw [split, List.drop_left]
    obtain ⟨rest, split'⟩ := startsWith_iff.mp (dropped ▸ marked)
    refine .inl ⟨['*'], .inr ⟨allowed, rfl⟩, ?_⟩
    rw [dropped, split, split']
    rfl
  · cases read : requiredGroup name 2 text with
    | none => exact .inr rfl
    | some rest =>
        obtain ⟨value, hex, split⟩ := requiredGroup_eq_some_iff.mp read
        exact .inl ⟨value, .inl hex, split⟩

theorem optionalGroup_value {value rest : Str} (held : GroupValue star value) :
    optionalGroup name star (name ++ (value ++ rest)) = rest := by
  rcases held with hex | ⟨allowed, any⟩
  · exact optionalGroup_read hex
  · have marked : startsWith ('*' :: rest) "*" = true := startsWith_append _ rest
    rw [any, allowed, optionalGroup]
    simp only [startsWith_append, List.drop_left, List.singleton_append, marked, Bool.and_self,
      if_true, List.drop_succ_cons, List.drop_zero]

/-- A written text starts with the name of one of its groups. -/
theorem writtenText_cases (groups : List (Str × Bool)) (values : List (Option Str)) :
    writtenText groups values = [] ∨
      ∃ group ∈ groups, ∃ rest, writtenText groups values = group.1 ++ rest := by
  induction groups generalizing values with
  | nil => exact .inl rfl
  | cons group groups ih =>
      match values with
      | [] => exact .inl rfl
      | some value :: values => exact .inr ⟨group, by simp, _, rfl⟩
      | none :: values =>
          rcases ih values with empty | ⟨later, member, rest, split⟩
          · exact .inl empty
          · exact .inr ⟨later, by simp [member], rest, split⟩

/-- It does not start with the name of a group before them. -/
theorem writtenText_other {group : Str × Bool} (apart : Apart (group :: groups)) :
    startsWith (writtenText groups values) group.1 = false := by
  rcases writtenText_cases groups values with empty | ⟨later, member, rest, split⟩
  · obtain ⟨c, tail, named⟩ := List.exists_cons_of_ne_nil (apart.named group (by simp))
    rw [empty, named]
    rfl
  · have different := (List.pairwise_cons.mp apart.apart).1 later member
    rw [split]
    exact startsWith_other different.2 different.1

theorem readGroups_cons (group : Str × Bool) (text : Str) :
    readGroups (group :: groups) text = readGroups groups (optionalGroup group.1 group.2 text) := rfl

theorem readGroups_writtenText (apart : Apart groups) (held : Holds groups values) :
    readGroups groups (writtenText groups values) = [] := by
  induction held with
  | nil => rfl
  | @cons group value groups values here _ ih =>
      rw [readGroups_cons]
      cases value with
      | none =>
          have skipped : optionalGroup group.1 group.2 (writtenText groups values) = _ :=
            optionalGroup_skip (writtenText_other apart)
          rw [writtenText, skipped]
          exact ih apart.tail
      | some value =>
          have read : optionalGroup group.1 group.2
              (group.1 ++ (value ++ writtenText groups values)) = _ := optionalGroup_value (here value rfl)
          rw [writtenText, read]
          exact ih apart.tail

/-- The groups use a text up exactly when it is written out of values they may hold. -/
theorem readGroups_eq_nil_iff (apart : Apart groups) :
    readGroups groups text = [] ↔ ∃ values, Holds groups values ∧ text = writtenText groups values := by
  constructor
  · intro read
    induction groups generalizing text with
    | nil => exact ⟨[], .nil, read⟩
    | cons group groups ih =>
        rw [readGroups_cons] at read
        rcases optionalGroup_cases group.1 group.2 text with ⟨value, held, split⟩ | left
        · obtain ⟨values, later, rest⟩ := ih apart.tail read
          rw [rest] at split
          exact ⟨some value :: values, .cons (fun _ same => Option.some.inj same ▸ held) later, split⟩
        · rw [left] at read
          obtain ⟨values, later, same⟩ := ih apart.tail read
          exact ⟨none :: values, .cons (fun _ same => nomatch same) later, same⟩
  · intro ⟨values, held, same⟩
    rw [same]
    exact readGroups_writtenText apart held

theorem GroupValue.append_inj {value value' rest rest' : Str} (held : GroupValue star value)
    (held' : GroupValue star value') (same : value ++ rest = value' ++ rest') :
    value = value' ∧ rest = rest' := by
  have mixed : ∀ {hexValue after after' : Str}, IsHexOf 2 hexValue →
      hexValue ++ after ≠ '*' :: after' := by
    intro hexValue after after' hex same
    have noStar : startsWith (hexValue ++ after) "*" = false := startsWith_star (by decide) hex
    rw [same] at noStar
    cases noStar
  rcases held with hex | ⟨_, any⟩
  · rcases held' with hex' | ⟨_, any'⟩
    · exact List.append_inj same (hex.1.trans hex'.1.symm)
    · rw [any'] at same
      exact absurd same (mixed hex)
  · rcases held' with hex' | ⟨_, any'⟩
    · rw [any] at same
      exact absurd same.symm (mixed hex')
    · rw [any, any'] at same ⊢
      exact ⟨rfl, List.append_cancel_left same⟩

/-- A text is written in one way only. -/
theorem writtenText_injective (apart : Apart groups) {values' : List (Option Str)}
    (held : Holds groups values) (held' : Holds groups values')
    (same : writtenText groups values = writtenText groups values') : values = values' := by
  induction held generalizing values' with
  | nil =>
      cases held'
      rfl
  | @cons group value groups values here _ ih =>
      have parts : ∀ {rest : Str} {later : List (Option Str)},
          group.1 ++ rest ≠ writtenText groups later := by
        intro rest later equal
        have other : startsWith (writtenText groups later) group.1 = false := writtenText_other apart
        rw [← equal, startsWith_append] at other
        cases other
      cases held' with
      | @cons _ value' _ values' here' held' =>
          match value, value' with
          | none, none => rw [ih apart.tail held' same]
          | none, some value' => exact absurd same.symm parts
          | some value, none => exact absurd same parts
          | some value, some value' =>
              have rest : value ++ writtenText groups _ = value' ++ writtenText groups _ :=
                List.append_cancel_left same
              obtain ⟨equal, later⟩ := (here value rfl).append_inj (here' value' rfl) rest
              rw [equal, ih apart.tail held' later]

end Language

section Parsing

variable {name value rest : Str} {star : Bool} {groups : List (Str × Bool)}
  {values : List (Option Str)}

def fieldSpec (group : Str × Bool) : Str × Nat := (group.1, 2)

theorem gapless_some (value : Str) : Gapless (some value :: values) ↔ Gapless values := by
  rw [Gapless, List.pairwise_cons]
  exact and_iff_right fun later _ _ => rfl

theorem gapless_none : Gapless (none :: values) ↔ ∀ later ∈ values, later = none := by
  rw [Gapless, List.pairwise_cons]
  constructor
  · intro ⟨behind, _⟩ later member
    cases later with
    | none => rfl
    | some value => cases behind _ member rfl
  · intro absent
    have unwritten : ∀ later ∈ values, later.isSome = false := by
      intro later member
      rw [absent later member]
      rfl
    refine ⟨fun later member => by simp [absent later member], ?_⟩
    refine List.pairwise_of_forall_mem_list fun earlier _ later member written => ?_
    rw [unwritten later member] at written
    cases written

theorem written_of_absent (absent : ∀ later ∈ values, later = none) :
    writtenText groups values = [] ∧ writtenFields groups values = [] := by
  induction groups generalizing values with
  | nil => cases values <;> exact ⟨rfl, rfl⟩
  | cons group groups ih =>
      match values with
      | [] => exact ⟨rfl, rfl⟩
      | some value :: values => cases absent (some value) (by simp)
      | none :: values => exact ih fun later member => absent later (by simp [member])

theorem absent_of_writtenText (held : Holds groups values) (named : ∀ group ∈ groups, group.1 ≠ [])
    (empty : writtenText groups values = []) : ∀ later ∈ values, later = none := by
  induction held with
  | nil => simp
  | @cons group value groups values _ _ ih =>
      cases value with
      | none =>
          have later := ih (fun group member => named group (by simp [member])) empty
          exact List.forall_mem_cons.mpr ⟨rfl, later⟩
      | some value => exact absurd (List.append_eq_nil_iff.mp empty).1 (named group (by simp))

theorem parseFields_held {width : Nat} {specs : List (Str × Nat)} (lowered : lower (upper name) = name)
    (nonempty : name ≠ []) (held : GroupValue star value) (two : width = 2) :
    parseFields ((name, width) :: specs) (upper (name ++ (value ++ rest))) =
      (parseFields specs (upper rest)).map ((name, upper value) :: ·) := by
  subst two
  have nonempty' : upper name ≠ [] := by simpa [upper] using nonempty
  rw [upper_append, upper_append]
  rcases held with hex | ⟨_, any⟩
  · rw [parseFields_value lowered nonempty' (by decide) hex.upper, upper_upper hex.2]
  · rw [any]
    exact parseFields_star lowered nonempty'

/-- A field that is not the next one stops the parser. -/
theorem parseFields_other {group : Str × Bool} (apart : Apart (group :: groups))
    (lowered : ∀ later ∈ group :: groups, lower (upper later.1) = later.1)
    (present : writtenText groups values ≠ []) :
    parseFields (fieldSpec group :: groups.map fieldSpec) (upper (writtenText groups values)) = none := by
  rw [← Option.not_isSome_iff_eq_none, Option.isSome_iff_exists]
  intro ⟨fields, parsed⟩
  rcases parseFields_cons parsed with ⟨empty, _⟩ | ⟨token, stored, _, rest, _, split, named, _⟩
  · exact present (List.map_eq_nil_iff.mp empty)
  · rcases writtenText_cases groups values with empty | ⟨later, member, more, written⟩
    · exact present empty
    · have different := (List.pairwise_cons.mp apart.apart).1 later member
      have start : group.1 <+: lower (upper (writtenText groups values)) := by
        rw [split, lower_append, named]
        exact List.prefix_append _ _
      rw [written, upper_append, lower_append, lowered later (by simp [member])] at start
      rcases List.prefix_or_prefix_of_prefix start (List.prefix_append later.1 _) with before | after
      · exact different.1 before
      · exact different.2 after

theorem parseFields_writtenText (apart : Apart groups)
    (lowered : ∀ group ∈ groups, lower (upper group.1) = group.1) (held : Holds groups values) :
    parseFields (groups.map fieldSpec) (upper (writtenText groups values)) =
      if Gapless values then some (upperFields (writtenFields groups values)) else none := by
  induction held with
  | nil => rfl
  | @cons group value groups values here later ih =>
      have tail := ih apart.tail fun later member => lowered later (by simp [member])
      cases value with
      | none =>
          rw [writtenText, writtenFields]
          by_cases empty : writtenText groups values = []
          · have absent := absent_of_writtenText later apart.tail.named empty
            rw [if_pos (gapless_none.mpr absent), empty, (written_of_absent absent).2]
            rfl
          · have gap : ¬ Gapless (none :: values) := fun gapless =>
              empty (written_of_absent (gapless_none.mp gapless)).1
            rw [if_neg gap]
            exact parseFields_other apart lowered empty
      | some value =>
          have read : parseFields (fieldSpec group :: groups.map fieldSpec)
              (upper (group.1 ++ (value ++ writtenText groups values))) = _ :=
            parseFields_held (lowered group (by simp)) (apart.named group (by simp)) (here value rfl) rfl
          rw [writtenText, writtenFields]
          refine read.trans ?_
          rw [tail]
          by_cases gapless : Gapless values
          · rw [if_pos gapless, if_pos ((gapless_some value).mpr gapless)]
            rfl
          · rw [if_neg gapless, if_neg ((gapless_some value).not.mpr gapless)]
            rfl

end Parsing

/-- What a modalias writes down: the three numbers, and the fields that follow them. -/
structure Written where
  v : Str
  p : Str
  d : Str
  «optional» : List (Option Str)
  vHex : IsHexOf 4 v
  pHex : IsHexOf 4 p
  dHex : IsHexOf 4 d
  held : Holds optionalGroups «optional»

namespace Written

def body (written : Written) : Str :=
  "v" ++ (written.v ++ ("p" ++ (written.p ++ ("d" ++ (written.d ++
    writtenText optionalGroups written.optional)))))

def text (written : Written) : Str := "usb:" ++ written.body

def fields (written : Written) : List (Str × Str) :=
  ("v", written.v) :: ("p", written.p) :: ("d", written.d) ::
    writtenFields optionalGroups written.optional

theorem text_injective {first second : Written} (same : first.text = second.text) : first = second := by
  obtain ⟨v, p, d, values, vHex, pHex, dHex, held⟩ := first
  obtain ⟨v', p', d', values', vHex', pHex', dHex', held'⟩ := second
  have afterV := @List.append_cancel_left _ ("usb:v" : Str) _ _ same
  obtain ⟨sameV, afterV⟩ := List.append_inj afterV (vHex.1.trans vHex'.1.symm)
  obtain ⟨sameP, afterP⟩ := List.append_inj (List.append_cancel_left afterV) (pHex.1.trans pHex'.1.symm)
  obtain ⟨sameD, afterD⟩ := List.append_inj (List.append_cancel_left afterP) (dHex.1.trans dHex'.1.symm)
  have sameValues := writtenText_injective apart_optionalGroups held held' afterD
  subst sameV sameP sameD sameValues
  rfl

end Written

theorem modaliasOk_iff_written {text : Str} :
    modaliasOk text = true ↔ ∃ written : Written, text = written.text := by
  rw [modaliasOk]
  constructor
  · intro accepted
    cases read : ((requiredGroup "usb:v" 4 text).bind (requiredGroup "p" 4)).bind (requiredGroup "d" 4) with
    | none =>
        rw [read] at accepted
        cases accepted
    | some rest =>
        rw [read, decide_eq_true_eq] at accepted
        obtain ⟨afterP, readP, readD⟩ := Option.bind_eq_some_iff.mp read
        obtain ⟨afterV, readV, readP⟩ := Option.bind_eq_some_iff.mp readP
        obtain ⟨v, vHex, splitV⟩ := requiredGroup_eq_some_iff.mp readV
        obtain ⟨p, pHex, splitP⟩ := requiredGroup_eq_some_iff.mp readP
        obtain ⟨d, dHex, splitD⟩ := requiredGroup_eq_some_iff.mp readD
        obtain ⟨values, held, same⟩ := (readGroups_eq_nil_iff apart_optionalGroups).mp accepted
        refine ⟨⟨v, p, d, values, vHex, pHex, dHex, held⟩, ?_⟩
        rw [splitV, splitP, splitD, same]
        rfl
  · rintro ⟨written, same⟩
    have text : written.text = "usb:v".toList ++ (written.v ++ ("p".toList ++ (written.p ++
        ("d".toList ++ (written.d ++ writtenText optionalGroups written.optional))))) := rfl
    rw [same, text, requiredGroup_read written.vHex, Option.bind_some, requiredGroup_read written.pHex,
      Option.bind_some, requiredGroup_read written.dHex, decide_eq_true_eq]
    exact readGroups_writtenText apart_optionalGroups written.held

theorem parseBody_written (written : Written) :
    parseBody (upper written.body) =
      if Gapless written.optional then some (upperFields written.fields) else none := by
  have specs : fieldSpecs = ("v".toList, 4) :: ("p".toList, 4) :: ("d".toList, 4) ::
      optionalGroups.map fieldSpec := rfl
  have body : upper written.body = upper "v" ++ (upper written.v ++ (upper "p" ++ (upper written.p ++
      (upper "d" ++ (upper written.d ++ upper (writtenText optionalGroups written.optional)))))) := by
    simp only [Written.body, upper_append]
  have some : upper written.body ≠ ['*'] := by
    intro same
    exact absurd (List.head_eq_of_cons_eq same) (by decide)
  rw [parseBody, if_neg some, specs, body,
    parseFields_value (by decide) (by decide) (by decide) written.vHex.upper,
    parseFields_value (by decide) (by decide) (by decide) written.pHex.upper,
    parseFields_value (by decide) (by decide) (by decide) written.dHex.upper,
    parseFields_writtenText apart_optionalGroups (by decide) written.held,
    upper_upper written.vHex.2, upper_upper written.pHex.2, upper_upper written.dHex.2]
  by_cases gapless : Gapless written.optional
  · simp only [if_pos gapless]
    rfl
  · simp only [if_neg gapless]
    rfl

def catchAllRow (module : Str) : Str := "alias usb:* " ++ module

theorem parse_catchAllRow {module : Str} (word : IsWord module) :
    parseAliasLine (catchAllRow module) = some ⟨"usb:*", module, catchAllRow module⟩ := by
  have usb : startsWith ("usb:*" : Str) "usb:" = true := by decide
  have patternWord : IsWord "usb:*" := by decide
  have row : Spacing.singleSpaced.row "usb:*" module = catchAllRow module := by
    rw [Spacing.row, Spacing.core]
    exact congrArg (("alias usb:* " : Str) ++ ·) (List.append_nil module)
  rw [← row]
  exact Spacing.singleSpaced.parse_row usb patternWord word

theorem patternMatches_catchAll {modalias : Str} :
    patternMatches "usb:*" modalias = true ↔ ∃ knows, parseBody (modalias.drop 4) = some knows := by
  have unasked : ∀ name : FieldName, asked [] name = none := by
    intro name
    rfl
  have parsed : parseBody (("usb:*" : Str).drop 4) = some [] := rfl
  have header : startsWith (lower "usb:*") "usb:" = true := by decide
  rw [patternMatches_iff, parsed]
  constructor
  · intro ⟨_, _, _, knows, _, read, _⟩
    exact ⟨knows, read⟩
  · intro ⟨knows, read⟩
    refine ⟨header, by decide, [], knows, rfl, read, fun name value asking => ?_⟩
    rw [unasked] at asking
    cases asking

theorem match_catchAll {value normalized module : Str} (accepted : sanitizeModalias value = some normalized)
    (word : IsWord module) : «match» value [.text (catchAllRow module)] = [module] ↔
      ∃ knows, parseBody (normalized.drop 4) = some knows := by
  have rows : asRows [.text (catchAllRow module)] = [⟨"usb:*", module, catchAllRow module⟩] := by
    simp [asRows, parseAliasLines, parse_catchAllRow word]
  have claims : matchWithLines value [.text (catchAllRow module)] =
      [⟨"usb:*", module, catchAllRow module⟩].filter fun row => patternMatches row.pattern normalized := by
    rw [matchWithLines, accepted]
    simp only [rows]
  rw [← patternMatches_catchAll, «match», claims, List.filter_cons]
  split
  · rename_i claimed
    exact ⟨fun _ => claimed, fun _ => rfl⟩
  · rename_i other
    constructor
    · intro found
      cases found
    · intro claimed
      exact absurd claimed other

/-- The parser reads what is written exactly when no field behind a missing one is
written; otherwise it reads nothing, and no row claims the modalias. -/
theorem sanitized_parses_iff_gapless {value normalized : Str}
    (accepted : sanitizeModalias value = some normalized) :
    ∃ written : Written, (∀ other : Written, strip value = other.text ↔ other = written) ∧
      normalized = upper written.text ∧
      ((parseBody (normalized.drop 4) = some (upperFields written.fields) ∧
          ∀ module, IsWord module → «match» value [.text (catchAllRow module)] = [module]) ↔
        Gapless written.optional) := by
  have accepted' := accepted
  unfold sanitizeModalias at accepted
  dsimp only at accepted
  split at accepted
  · rename_i ok
    obtain ⟨written, same⟩ := modaliasOk_iff_written.mp ok
    have normal : normalized = upper written.text := by
      rw [← same]
      exact (Option.some.inj accepted).symm
    have body : normalized.drop 4 = upper written.body := by
      rw [normal]
      rfl
    have parsed := parseBody_written written
    rw [← body] at parsed
    refine ⟨written, fun other => ⟨fun equal => ?_, fun equal => ?_⟩, normal, ?_⟩
    · exact Written.text_injective (equal.symm.trans same)
    · rw [equal]
      exact same
    · rw [parsed]
      constructor
      · intro ⟨read, _⟩
        by_contra gap
        rw [if_neg gap] at read
        cases read
      · intro gapless
        rw [if_pos gapless] at parsed ⊢
        exact ⟨rfl, fun module word => (match_catchAll accepted' word).mpr ⟨_, parsed⟩⟩
  · cases accepted

def deviceWritten : Written where
  v := "148f"
  p := "7601"
  d := "0200"
  «optional» := [some "00", some "00", some "00", none, none, none, none]
  vHex := by decide
  pHex := by decide
  dHex := by decide
  held := by decide

theorem sanitized_parses_iff_gapless_device :
    parseBody "V148FP7601D0200DC00DSC00DP00" = some (upperFields deviceWritten.fields) ∧
      «match» " usb:v148fp7601d0200dc00dsc00dp00\n" [.text (catchAllRow "m")] = ["m".toList] := by
  have accepted : sanitizeModalias " usb:v148fp7601d0200dc00dsc00dp00\n" =
      some "USB:V148FP7601D0200DC00DSC00DP00".toList := by decide +kernel
  obtain ⟨written, unique, _, reads⟩ := sanitized_parses_iff_gapless accepted
  have same : deviceWritten = written := (unique deviceWritten).mp (by decide +kernel)
  subst same
  obtain ⟨parsed, claimed⟩ := reads.mpr (by decide)
  exact ⟨parsed, claimed "m" (by decide)⟩

/-- A subclass without a class: accepted, and then neither read nor claimed. -/
theorem subclass_alone_unread :
    sanitizeModalias "usb:v148Fp7601d0200dsc00" = some "USB:V148FP7601D0200DSC00".toList ∧
      parseBody "V148FP7601D0200DSC00" = none ∧
      «match» "usb:v148Fp7601d0200dsc00" [.text (catchAllRow "m")] = [] := by
  decide +kernel

end DongleRescue.Linux
