import DongleRescue.Data.Tuples
import DongleRescue.Linux.LogAccess
import Mathlib.Order.WithBot

namespace DongleRescue.Linux

open DongleRescue.Data

/-! When one kernel release is newer than another.  The key that is compared puts the ABI number
after the components, so that it meets a component where one version is longer. -/

/-- A number that may be missing, as the key holds it. -/
def keyEntry : WithBot ℕ → Int
  | none => -1
  | some n => n

@[simp] theorem keyEntry_bot : keyEntry ⊥ = -1 := rfl

@[simp] theorem keyEntry_coe (n : ℕ) : keyEntry (WithBot.some n) = n := rfl

theorem keyEntry_lt {left right : WithBot ℕ} (below : left < right) : keyEntry left < keyEntry right := by
  cases left with
  | bot =>
      cases right with
      | bot => exact absurd below (lt_irrefl _)
      | coe n =>
          rw [keyEntry_bot, keyEntry_coe]
          omega
  | coe m =>
      cases right with
      | bot => exact absurd below (not_lt_bot)
      | coe n => exact Int.ofNat_lt.mpr (WithBot.coe_lt_coe.mp below)

section Releases

variable [Interpreter]

/-- One or more decimal digits and nothing else. -/
def IsNumber (field : Str) : Prop := field ≠ [] ∧ (takeDecimal field).length = field.length

instance (field : Str) : Decidable (IsNumber field) := inferInstanceAs (Decidable (_ ∧ _))

def numeralValue (field : Str) : ℕ := (takeDecimal field).foldl (fun value digit => value * 10 + digit) 0

/-- The number that a field is, if it is one. -/
def numeral (field : Str) : WithBot ℕ := if IsNumber field then WithBot.some (numeralValue field) else ⊥

def versionFields (rel : Str) : List Str := ((rel.splitOn '-').headD []).splitOn '.'

def abiField (rel : Str) : Str := (rel.splitOn '-').tail.headD []

def versionParts (rel : Str) : List (WithBot ℕ) := (versionFields rel).map numeral

def abiNumber (rel : Str) : WithBot ℕ := numeral (abiField rel)

/-- The head of the release is numbers between dots. -/
def Comparable (rel : Str) (parts : List ℕ) : Prop := versionParts rel = parts.map WithBot.some

instance (rel : Str) (parts : List ℕ) : Decidable (Comparable rel parts) := inferInstanceAs (Decidable (_ = _))

/-- Releases are ordered by their versions, and of one version by the ABI number. -/
def release (parts : List ℕ) (abi : WithBot ℕ) : Lex (ℕ → ℕ) ×ₗ WithBot ℕ := toLex (padded parts, abi)

def Newer (candidate baseline : Str) : Prop :=
  ∃ parts parts', Comparable candidate parts ∧ Comparable baseline parts' ∧
    release parts' (abiNumber baseline) < release parts (abiNumber candidate)

/-- What is compared: the components, and then the ABI number. -/
def entries (rel : Str) : List (WithBot ℕ) := versionParts rel ++ [abiNumber rel]

/-- A field that `str.isdigit` takes for a number and `int` does not. -/
def RefusedField (isDigit : Char → Bool) (field : Str) : Prop :=
  (field ≠ [] ∧ ∀ c ∈ field, isDigit c = true) ∧ ¬ ((takeDecimal field).length = field.length ∧ field.length ≤ 4300)

instance (isDigit : Char → Bool) (field : Str) : Decidable (RefusedField isDigit field) :=
  inferInstanceAs (Decidable (_ ∧ _))

def Refused (isDigit : Char → Bool) (rel : Str) : Prop :=
  ∃ field ∈ versionFields rel ++ [abiField rel], RefusedField isDigit field

instance (isDigit : Char → Bool) (rel : Str) : Decidable (Refused isDigit rel) :=
  inferInstanceAs (Decidable (∃ field ∈ versionFields rel ++ [abiField rel], RefusedField isDigit field))

/-- Decimal digits are digits. -/
def DigitLaw (isDigit : Char → Bool) : Prop := ∀ c, takeDecimal [c] ≠ [] → isDigit c = true

section Keys

variable {isDigit : Char → Bool} {field rel : Str}

theorem versionPart_of_readable (law : DigitLaw isDigit) (readable : ¬ RefusedField isDigit field) :
    versionPart isDigit field = .ok (keyEntry (numeral field)) := by
  rw [versionPart, numeral]
  by_cases decimals : IsNumber field
  · have digits : ∀ c ∈ field, isDigit c = true := fun c member =>
      law c (takeDecimal_length_iff.mp decimals.2 c member)
    have short : (takeDecimal field).length ≤ 4300 := by
      by_contra long
      exact readable ⟨⟨decimals.1, digits⟩, fun both => long (decimals.2.symm ▸ both.2)⟩
    rw [if_pos decimals, keyEntry_coe, if_pos (by simpa using ⟨decimals.1, digits⟩), intOfDigits, if_pos decimals.2,
      intOfDecimal, if_pos short]
    rfl
  · have letters : ¬ (field ≠ [] ∧ ∀ c ∈ field, isDigit c = true) := by
      intro digits
      exact readable ⟨digits, fun both => decimals ⟨digits.1, both.1⟩⟩
    rw [if_neg decimals, if_neg (by simpa using letters)]
    rfl

theorem versionPart_of_refused (refused : RefusedField isDigit field) :
    ∃ failure, versionPart isDigit field = .error failure := by
  obtain ⟨digits, unread⟩ := refused
  rw [versionPart, if_pos (by simpa using digits), intOfDigits]
  by_cases decimals : (takeDecimal field).length = field.length
  · have long : ¬ (takeDecimal field).length ≤ 4300 := fun short => unread ⟨decimals, decimals ▸ short⟩
    rw [if_pos decimals, intOfDecimal, if_neg long]
    exact ⟨_, rfl⟩
  · rw [if_neg decimals]
    exact ⟨_, rfl⟩

theorem mapM_versionPart {fields : List Str} (law : DigitLaw isDigit)
    (readable : ∀ field ∈ fields, ¬ RefusedField isDigit field) :
    fields.mapM (versionPart isDigit) = .ok ((fields.map numeral).map keyEntry) := by
  induction fields with
  | nil => rfl
  | cons field fields ih =>
      rw [List.forall_mem_cons] at readable
      rw [List.mapM_cons, versionPart_of_readable law readable.1, ih readable.2]
      rfl

theorem versionKey_of_readable (law : DigitLaw isDigit) (readable : ¬ Refused isDigit rel) :
    versionKey isDigit rel = .ok ((entries rel).map keyEntry) := by
  have fields : ∀ field ∈ versionFields rel ++ [abiField rel], ¬ RefusedField isDigit field :=
    fun field member refused => readable ⟨field, member, refused⟩
  rw [List.forall_mem_append, List.forall_mem_singleton] at fields
  have parts := mapM_versionPart law fields.1
  have abi := versionPart_of_readable law fields.2
  rw [versionFields] at parts
  rw [abiField] at abi
  rw [versionKey, parts, abi, entries, List.map_append]
  rfl

theorem versionKey_of_refused (refused : Refused isDigit rel) :
    ∃ failure, versionKey isDigit rel = .error failure := by
  cases key : versionKey isDigit rel with
  | error failure => exact ⟨failure, rfl⟩
  | ok key =>
      rw [versionKey] at key
      obtain ⟨parts, read, key⟩ := bind_ok key
      obtain ⟨abi, readAbi, _⟩ := bind_ok key
      obtain ⟨field, member, refused⟩ := refused
      obtain ⟨failure, raised⟩ := versionPart_of_refused refused
      rcases List.mem_append.mp member with inHead | last
      · obtain ⟨entry, _, readField⟩ := exists_of_mem_left (forall₂_of_mapM read) inHead
        rw [raised] at readField
        cases readField
      · rw [List.mem_singleton.mp last, abiField] at raised
        rw [raised] at readAbi
        cases readAbi

omit [Interpreter] in
theorem tupleGt_iff (left right : List Int) : tupleGt left right = true ↔ right < left := by
  induction left generalizing right with
  | nil => simp [tupleGt]
  | cons first left ih =>
      cases right with
      | nil => simp [tupleGt]
      | cons second right =>
          rw [tupleGt, List.cons_lt_cons_iff]
          by_cases same : first = second
          · rw [if_pos same, ih, same]
            simp
          · rw [if_neg same, decide_eq_true_eq]
            exact (or_iff_left fun both => same both.1.symm).symm

/-- Between keys that can be read, the entries are compared as tuples. -/
theorem versionGt_iff {candidate baseline : Str} (law : DigitLaw isDigit) (readable : ¬ Refused isDigit candidate)
    (readable' : ¬ Refused isDigit baseline) :
    versionGt isDigit candidate baseline = true ↔ entries baseline < entries candidate := by
  rw [versionGt, versionKey_of_readable law readable, versionKey_of_readable law readable']
  exact (tupleGt_iff _ _).trans (map_lt_map_iff fun _ _ => keyEntry_lt)

theorem versionGt_of_refused {candidate baseline : Str}
    (refused : Refused isDigit candidate ∨ Refused isDigit baseline) :
    versionGt isDigit candidate baseline = false := by
  rw [versionGt]
  rcases refused with refused | refused
  · obtain ⟨failure, raised⟩ := versionKey_of_refused refused
    rw [raised]
  · obtain ⟨failure, raised⟩ := versionKey_of_refused refused
    rw [raised]
    cases versionKey isDigit candidate with
    | error failure => rfl
    | ok key => rfl

end Keys

section Orders

variable {parts front rest rest' : List ℕ} {next first second : ℕ} {abi abi' : WithBot ℕ}

/-- The entries of a version and an ABI number. -/
def tuple (parts : List ℕ) (abi : WithBot ℕ) : List (WithBot ℕ) := parts.map WithBot.some ++ [abi]

omit [Interpreter] in
theorem tuple_eq (parts : List ℕ) (abi : WithBot ℕ) : tuple parts abi = parts.map WithBot.some ++ [abi] := rfl

omit [Interpreter] in
theorem release_lt_iff {parts' : List ℕ} : release parts' abi' < release parts abi ↔
    padded parts' < padded parts ∨ padded parts' = padded parts ∧ abi' < abi :=
  Prod.Lex.toLex_lt_toLex

omit [Interpreter] in
theorem tuple_append (front rest : List ℕ) (abi : WithBot ℕ) :
    tuple (front ++ next :: rest) abi = front.map WithBot.some ++ WithBot.some next :: tuple rest abi := by
  rw [tuple, tuple, List.map_append, List.map_cons, List.append_assoc, List.cons_append]

omit [Interpreter] in
theorem orders_same : (tuple parts abi' < tuple parts abi ↔ abi' < abi) ∧
    (release parts abi' < release parts abi ↔ abi' < abi) := by
  constructor
  · rw [tuple, tuple, append_lt_append_iff, cons_lt_singleton_iff]
  · have itself : ¬ padded parts < padded parts := by simpa using not_padded_append_lt parts []
    rw [release_lt_iff, or_iff_right itself]
    exact and_iff_right rfl

omit [Interpreter] in
/-- The first difference between two versions decides in both orders. -/
theorem orders_differ (other : first ≠ second) :
    (tuple (front ++ second :: rest') abi' < tuple (front ++ first :: rest) abi ↔ second < first) ∧
      (release (front ++ second :: rest') abi' < release (front ++ first :: rest) abi ↔ second < first) := by
  constructor
  · have other' : WithBot.some second ≠ WithBot.some first := fun same => other (WithBot.coe_injective same).symm
    rw [tuple_append, tuple_append, append_lt_append_iff, cons_lt_cons_of_ne other', WithBot.coe_lt_coe]
  · rw [release_lt_iff, padded_lt_of_ne other.symm]
    exact or_iff_left fun both => padded_ne_of_ne other.symm both.1

omit [Interpreter] in
theorem orders_shorter :
    (tuple (parts ++ next :: rest) abi' < tuple parts abi ↔ WithBot.some next < abi) ∧
      (release (parts ++ next :: rest) abi' < release parts abi ↔ (∀ n ∈ next :: rest, n = 0) ∧ abi' < abi) := by
  constructor
  · rw [tuple_append, tuple_eq parts, append_lt_append_iff, cons_lt_singleton_iff]
  · rw [release_lt_iff, or_iff_right (not_padded_append_lt parts (next :: rest)), eq_comm, padded_append_eq_iff]

omit [Interpreter] in
theorem orders_longer :
    (tuple parts abi' < tuple (parts ++ next :: rest) abi ↔ abi' ≤ WithBot.some next) ∧
      (release parts abi' < release (parts ++ next :: rest) abi ↔ (∃ n ∈ next :: rest, n ≠ 0) ∨ abi' < abi) := by
  constructor
  · have nonempty : tuple rest abi ≠ [] := by simp [tuple]
    rw [tuple_append, tuple_eq parts, append_lt_append_iff, singleton_lt_cons_iff nonempty]
  · rw [release_lt_iff, padded_lt_append_iff, padded_append_eq_iff]
    constructor
    · rintro (longer | ⟨_, below⟩)
      · exact .inl longer
      · exact .inr below
    · rintro (longer | below)
      · exact .inl longer
      · by_cases zeros : ∀ n ∈ next :: rest, n = 0
        · exact .inr ⟨zeros, below⟩
        · push Not at zeros
          exact .inl zeros

end Orders

section Agreement

variable {isDigit : Char → Bool} {candidate baseline : Str} {parts parts' : List ℕ}

def ReadableBoth (isDigit : Char → Bool) (candidate baseline : Str) : Prop :=
  ¬ Refused isDigit candidate ∧ ¬ Refused isDigit baseline

/-- Where the entries of the releases part first, the candidate's is the lower one, or there is none. -/
structure NotAhead (candidate baseline : Str) : Prop where
  lower : ∀ front first second rest rest', entries candidate = front ++ first :: rest →
    entries baseline = front ++ second :: rest' → first ≤ second
  ends : ∀ next rest, entries candidate ≠ entries baseline ++ next :: rest

theorem notAhead_iff : ¬ entries baseline < entries candidate ↔ NotAhead candidate baseline := by
  rw [not_lt_iff]
  exact ⟨fun ⟨lower, ends⟩ => ⟨lower, ends⟩, fun notAhead => ⟨notAhead.lower, notAhead.ends⟩⟩

/-- The ABI number of the shorter version stands against a component of the longer one as the
releases stand; a field that cannot be read, or a head that is no version, hides no newer release and
shows none. -/
structure Aligned (isDigit : Char → Bool) (candidate baseline : Str) : Prop where
  refused : ¬ ReadableBoth isDigit candidate baseline → ¬ Newer candidate baseline
  incomparable : ReadableBoth isDigit candidate baseline →
    (¬ ∃ parts parts', Comparable candidate parts ∧ Comparable baseline parts') → NotAhead candidate baseline
  shorter : ReadableBoth isDigit candidate baseline → ∀ (parts rest : List ℕ) (next : ℕ), Comparable candidate parts →
    Comparable baseline (parts ++ next :: rest) →
      (WithBot.some next < abiNumber candidate ↔
        (∀ n ∈ next :: rest, n = 0) ∧ abiNumber baseline < abiNumber candidate)
  longer : ReadableBoth isDigit candidate baseline → ∀ (parts rest : List ℕ) (next : ℕ), Comparable baseline parts →
    Comparable candidate (parts ++ next :: rest) →
      (abiNumber baseline ≤ WithBot.some next ↔ (∃ n ∈ next :: rest, n ≠ 0) ∨ abiNumber baseline < abiNumber candidate)

theorem Comparable.parts_eq {rel : Str} (comparable : Comparable rel parts) (comparable' : Comparable rel parts') :
    parts = parts' :=
  List.map_injective_iff.mpr WithBot.coe_injective (comparable.symm.trans comparable')

theorem Comparable.entries_eq {rel : Str} (comparable : Comparable rel parts) :
    entries rel = tuple parts (abiNumber rel) := by
  rw [entries, comparable, tuple]

theorem newer_iff (comparable : Comparable candidate parts) (comparable' : Comparable baseline parts') :
    Newer candidate baseline ↔
      release parts' (abiNumber baseline) < release parts (abiNumber candidate) := by
  constructor
  · rintro ⟨_, _, same, same', newer⟩
    rwa [comparable.parts_eq same, comparable'.parts_eq same']
  · intro newer
    exact ⟨parts, parts', comparable, comparable', newer⟩

theorem aligned_iff (readable : ReadableBoth isDigit candidate baseline) (comparable : Comparable candidate parts)
    (comparable' : Comparable baseline parts') : Aligned isDigit candidate baseline ↔
      (∀ (rest : List ℕ) (next : ℕ), parts' = parts ++ next :: rest → (WithBot.some next < abiNumber candidate ↔
        (∀ n ∈ next :: rest, n = 0) ∧ abiNumber baseline < abiNumber candidate)) ∧
      ∀ (rest : List ℕ) (next : ℕ), parts = parts' ++ next :: rest → (abiNumber baseline ≤ WithBot.some next ↔
        (∃ n ∈ next :: rest, n ≠ 0) ∨ abiNumber baseline < abiNumber candidate) := by
  constructor
  · intro aligned
    constructor
    · intro rest next same
      exact aligned.shorter readable parts rest next comparable (same ▸ comparable')
    · intro rest next same
      exact aligned.longer readable parts' rest next comparable' (same ▸ comparable)
  · intro ⟨shorter, longer⟩
    refine ⟨fun unread => absurd readable unread, fun _ none => ?_, ?_, ?_⟩
    · exact absurd ⟨parts, parts', comparable, comparable'⟩ none
    · intro _ front rest next same same'
      rw [← comparable.parts_eq same] at same'
      exact shorter rest next (comparable'.parts_eq same')
    · intro _ front rest next same' same
      rw [← comparable'.parts_eq same'] at same
      exact longer rest next (comparable.parts_eq same)

omit [Interpreter] in
theorem ne_append_cons {α : Type*} (parts : List α) (next : α) (rest : List α) : parts ≠ parts ++ next :: rest := by
  intro same
  have length := congrArg List.length same
  simp at length

theorem agree_of_comparable (readable : ReadableBoth isDigit candidate baseline)
    (comparable : Comparable candidate parts) (comparable' : Comparable baseline parts') :
    (entries baseline < entries candidate ↔ Newer candidate baseline) ↔ Aligned isDigit candidate baseline := by
  rw [aligned_iff readable comparable comparable', newer_iff comparable comparable', comparable.entries_eq,
    comparable'.entries_eq]
  cases parting parts parts' with
  | same =>
      refine iff_of_true (orders_same.1.trans orders_same.2.symm) ⟨?_, ?_⟩
      · exact fun rest next same => absurd same (ne_append_cons _ _ _)
      · exact fun rest next same => absurd same (ne_append_cons _ _ _)
  | shorter _ next rest =>
      rw [orders_shorter.1, orders_shorter.2]
      constructor
      · intro agree
        refine ⟨fun rest' next' same => ?_, fun rest' next' same => ?_⟩
        · have parted := List.append_cancel_left same
          rw [List.cons.injEq] at parted
          rwa [← parted.1, ← parted.2]
        · rw [List.append_assoc] at same
          exact absurd same (ne_append_cons _ _ _)
      · intro aligned
        exact aligned.1 rest next rfl
  | longer _ next rest =>
      rw [orders_longer.1, orders_longer.2]
      constructor
      · intro agree
        refine ⟨fun rest' next' same => ?_, fun rest' next' same => ?_⟩
        · rw [List.append_assoc] at same
          exact absurd same (ne_append_cons _ _ _)
        · have parted := List.append_cancel_left same
          rw [List.cons.injEq] at parted
          rwa [← parted.1, ← parted.2]
      · intro aligned
        exact aligned.2 rest next rfl
  | differ front rest rest' other =>
      refine iff_of_true ((orders_differ other).1.trans (orders_differ other).2.symm) ⟨?_, ?_⟩
      · intro more next same
        rw [List.append_assoc] at same
        exact absurd (List.cons.inj (List.append_cancel_left same)).1.symm other
      · intro more next same
        rw [List.append_assoc] at same
        exact absurd (List.cons.inj (List.append_cancel_left same)).1 other

/-- The comparison is the order of releases exactly when the entries are aligned. -/
theorem versionGt_iff_newer (law : DigitLaw isDigit) (candidate baseline : Str) :
    (versionGt isDigit candidate baseline = true ↔ Newer candidate baseline) ↔
      Aligned isDigit candidate baseline := by
  by_cases readable : ReadableBoth isDigit candidate baseline
  · rw [versionGt_iff law readable.1 readable.2]
    by_cases comparable : ∃ parts parts', Comparable candidate parts ∧ Comparable baseline parts'
    · obtain ⟨parts, parts', same, same'⟩ := comparable
      exact agree_of_comparable readable same same'
    · have notNewer : ¬ Newer candidate baseline := by
        rintro ⟨parts, parts', same, same', _⟩
        exact comparable ⟨parts, parts', same, same'⟩
      constructor
      · intro agree
        refine ⟨fun unread => absurd readable unread, fun _ _ => ?_, ?_, ?_⟩
        · exact notAhead_iff.mp fun below => notNewer (agree.mp below)
        · intro _ parts rest next same same'
          exact absurd ⟨_, _, same, same'⟩ comparable
        · intro _ parts rest next same' same
          exact absurd ⟨_, _, same, same'⟩ comparable
      · intro aligned
        exact iff_of_false (notAhead_iff.mpr (aligned.incomparable readable comparable)) notNewer
  · have refused : Refused isDigit candidate ∨ Refused isDigit baseline := by
      rw [ReadableBoth, not_and_or, not_not, not_not] at readable
      exact readable
    rw [versionGt_of_refused refused]
    constructor
    · intro agree
      refine ⟨fun _ newer => Bool.false_ne_true (agree.mpr newer), ?_, ?_, ?_⟩
      · exact fun both => absurd both readable
      · exact fun both => absurd both readable
      · exact fun both => absurd both readable
    · intro aligned
      exact iff_of_false Bool.false_ne_true (aligned.refused readable)

end Agreement

end Releases

theorem digitLaw_ascii : @DigitLaw asciiInterpreter isDecimalDigit := by
  let _ : Interpreter := asciiInterpreter
  intro c digit
  exact (takeDecimal_singleton_iff.mp digit).resolve_right fun other => other rfl

theorem newer_oracle : @versionGt asciiInterpreter isDecimalDigit "6.17.0-1020-oracle" "6.17.0-1018-oracle" = true ↔
    @Newer asciiInterpreter "6.17.0-1020-oracle" "6.17.0-1018-oracle" := by
  let _ : Interpreter := asciiInterpreter
  have readable : ReadableBoth isDecimalDigit "6.17.0-1020-oracle" "6.17.0-1018-oracle" :=
    ⟨by decide +kernel, by decide +kernel⟩
  have candidate : Comparable "6.17.0-1020-oracle" [6, 17, 0] := by decide +kernel
  have baseline : Comparable "6.17.0-1018-oracle" [6, 17, 0] := by decide +kernel
  refine (versionGt_iff_newer digitLaw_ascii _ _).mpr ((aligned_iff readable candidate baseline).mpr ⟨?_, ?_⟩)
  · exact fun rest next same => absurd same (ne_append_cons _ _ _)
  · exact fun rest next same => absurd same (ne_append_cons _ _ _)

/-- A head that is no version claims to be newer, and so does an ABI number that stands against a
component. -/
theorem misaligned_releases :
    (@versionGt asciiInterpreter isDecimalDigit "6.18.x" "6.17.0" = true ∧
        ¬ @Newer asciiInterpreter "6.18.x" "6.17.0") ∧
      @versionGt asciiInterpreter isDecimalDigit "6.17-5" "6.17.1" = true ∧
        ¬ @Newer asciiInterpreter "6.17-5" "6.17.1" := by
  let _ : Interpreter := asciiInterpreter
  refine ⟨⟨by decide +kernel, ?_⟩, by decide +kernel, ?_⟩
  · rintro ⟨parts, _, comparable, _⟩
    have last : (⊥ : WithBot ℕ) ∈ versionParts "6.18.x" := by decide +kernel
    rw [comparable] at last
    obtain ⟨n, _, same⟩ := List.mem_map.mp last
    exact WithBot.coe_ne_bot same
  · have candidate : Comparable "6.17-5" [6, 17] := by decide +kernel
    have baseline : Comparable "6.17.1" ([6, 17] ++ [1]) := by decide +kernel
    rw [newer_iff candidate baseline, orders_shorter.2]
    intro newer
    exact absurd (newer.1 1 (by simp)) (by decide)

end DongleRescue.Linux
