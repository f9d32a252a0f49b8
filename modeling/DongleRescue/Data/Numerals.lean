import DongleRescue.Data.Text

namespace DongleRescue.Data

/-! Hexadecimal texts, and numerals padded to width two: their digits, and when they
have no more than two of them. -/

section Texts

variable {text : Str} {property : Char → Prop}

/-- What holds of the hexadecimal digits holds throughout a hexadecimal text. -/
theorem forall_of_isHex (hex : ∀ c ∈ text, isHex c = true) (all : ∀ c ∈ hexDigits, property c) :
    ∀ c ∈ text, property c :=
  fun c member => all c (List.contains_iff_mem.mp (hex c member))

theorem isHex_upper (hex : ∀ c ∈ text, isHex c = true) : ∀ c ∈ upper text, isHex c = true := by
  have all : ∀ c ∈ hexDigits, isHex c.toUpper = true := by decide
  exact List.forall_mem_map.mpr (forall_of_isHex hex all)

theorem isHex_lower (hex : ∀ c ∈ text, isHex c = true) : ∀ c ∈ lower text, isHex c = true := by
  have all : ∀ c ∈ hexDigits, isHex c.toLower = true := by decide
  exact List.forall_mem_map.mpr (forall_of_isHex hex all)

theorem upper_upper (hex : ∀ c ∈ text, isHex c = true) : upper (upper text) = upper text := by
  have all : ∀ c ∈ hexDigits, c.toUpper.toUpper = c.toUpper := by decide
  simp only [upper, List.map_map]
  exact List.map_congr_left (forall_of_isHex hex all)

theorem lower_lower (hex : ∀ c ∈ text, isHex c = true) : lower (lower text) = lower text := by
  have all : ∀ c ∈ hexDigits, c.toLower.toLower = c.toLower := by decide
  simp only [lower, List.map_map]
  exact List.map_congr_left (forall_of_isHex hex all)

theorem upper_lower (hex : ∀ c ∈ text, isHex c = true) : upper (lower text) = upper text := by
  have all : ∀ c ∈ hexDigits, c.toLower.toUpper = c.toUpper := by decide
  simp only [upper, lower, List.map_map]
  exact List.map_congr_left (forall_of_isHex hex all)

theorem lower_upper (hex : ∀ c ∈ text, isHex c = true) : lower (upper text) = lower text := by
  have all : ∀ c ∈ hexDigits, c.toUpper.toLower = c.toLower := by decide
  simp only [upper, lower, List.map_map]
  exact List.map_congr_left (forall_of_isHex hex all)

end Texts

section Digits

variable {base : Nat}

def digitValue (c : Char) : Nat := ("0123456789abcdef" : Str).idxOf c.toLower

def readDigits (base start : Nat) (digits : Str) : Nat :=
  digits.foldl (fun value c => value * base + digitValue c) start

theorem digitValue_digitChar {n : Nat} (small : n < 16) : digitValue (Nat.digitChar n) = n := by
  have all : ∀ n < 16, digitValue (Nat.digitChar n) = n := by decide
  exact all n small

theorem readDigits_append (start : Nat) (first second : Str) :
    readDigits base start (first ++ second) = readDigits base (readDigits base start first) second :=
  List.foldl_append

/-- The digits of a number, read one after the other, give it back. -/
theorem readDigits_toDigits (large : 1 < base) (small : base ≤ 16) (n : Nat) :
    readDigits base 0 (Nat.toDigits base n) = n := by
  induction n using Nat.strong_induction_on with
  | h n ih =>
      rw [Nat.toDigits_eq_if large]
      split
      · rename_i below
        simp [readDigits, digitValue_digitChar (below.trans_le small)]
      · rename_i above
        have smaller : n / base < n := Nat.div_lt_self (by omega) large
        have digit : n % base < 16 := (Nat.mod_lt n (by omega)).trans_le small
        rw [readDigits_append, ih _ smaller, readDigits, List.foldl_cons, List.foldl_nil,
          digitValue_digitChar digit]
        exact Nat.div_add_mod' n base

theorem mem_toDigits (large : 1 < base) (n : Nat) :
    ∀ c ∈ Nat.toDigits base n, ∃ digit < base, c = Nat.digitChar digit := by
  induction n using Nat.strong_induction_on with
  | h n ih =>
      intro c member
      rw [Nat.toDigits_eq_if large] at member
      split at member
      · rename_i below
        exact ⟨n, below, List.mem_singleton.mp member⟩
      · rename_i above
        have smaller : n / base < n := Nat.div_lt_self (by omega) large
        rcases List.mem_append.mp member with before | last
        · exact ih _ smaller c before
        · exact ⟨n % base, Nat.mod_lt n (by omega), List.mem_singleton.mp last⟩

theorem isDecimalDigit_decimal (n : Nat) : ∀ c ∈ decimal n, isDecimalDigit c = true := by
  have all : ∀ digit < 10, isDecimalDigit (Nat.digitChar digit) = true := by decide
  intro c member
  obtain ⟨digit, below, same⟩ := mem_toDigits (by decide) n c member
  rw [same]
  exact all digit below

/-- A power of ten has one digit more than its exponent. -/
theorem lt_length_decimal_pow {exponent : ℕ} (positive : 0 < exponent) :
    exponent < (decimal (Nat.pow 10 exponent)).length := by
  by_contra short
  exact lt_irrefl _ ((Nat.length_toDigits_le_iff (by decide) positive).mp (not_lt.mp short))

end Digits

def upperDigits : Str := "0123456789ABCDEF"

private theorem digitChar_mem {n : Nat} (small : n < 16) : (Nat.digitChar n).toUpper ∈ upperDigits := by
  have all : ∀ n < 16, (Nat.digitChar n).toUpper ∈ upperDigits := by decide
  exact all n small

theorem mem_hexUpper (n : Nat) : ∀ c ∈ hexUpper n, c ∈ upperDigits := by
  induction n using Nat.strong_induction_on with
  | h n ih =>
      intro c member
      rw [hexUpper, Nat.toDigits_eq_if (by decide)] at member
      split at member
      · rename_i small
        rw [List.map_cons, List.map_nil, List.mem_singleton] at member
        rw [member]
        exact digitChar_mem small
      · rename_i large
        rw [List.map_append, List.mem_append, List.map_cons, List.map_nil, List.mem_singleton] at member
        rcases member with before | last
        · exact ih (n / 16) (by omega) c before
        · rw [last]
          exact digitChar_mem (Nat.mod_lt n (by decide))

theorem length_hexUpper_le_iff {n : Nat} : (hexUpper n).length ≤ 2 ↔ n < 256 := by
  rw [hexUpper, List.length_map]
  exact Nat.length_toDigits_le_iff (by decide) (by decide)

theorem length_hexUpper_pos (n : Nat) : 0 < (hexUpper n).length := by
  rw [hexUpper, List.length_map]
  exact Nat.length_toDigits_pos

theorem length_format02X (number : Int) : 2 ≤ (format02X number).length := by
  cases number with
  | ofNat n =>
      rw [format02X, List.length_leftpad]
      omega
  | negSucc n =>
      have positive := length_hexUpper_pos (n + 1)
      simp only [format02X, List.length_cons]
      omega

theorem mem_format02X_ofNat (n : Nat) : ∀ c ∈ format02X (.ofNat n), c ∈ upperDigits := by
  intro c member
  rw [format02X, List.leftpad, List.mem_append] at member
  rcases member with padding | digit
  · rw [List.eq_of_mem_replicate padding]
    decide
  · exact mem_hexUpper n c digit

theorem mem_format02X (number : Int) : ∀ c ∈ format02X number, c ∈ upperDigits ++ ['-'] := by
  cases number with
  | ofNat n => exact fun c member => List.mem_append_left _ (mem_format02X_ofNat n c member)
  | negSucc n =>
      intro c member
      rcases List.mem_cons.mp member with sign | digit
      · rw [sign]
        decide
      · exact List.mem_append_left _ (mem_hexUpper (n + 1) c digit)

/-- A number fills exactly two digits when it is a byte. -/
theorem format02X_two_digits_iff {number : Int} :
    ((format02X number).length = 2 ∧ ∀ c ∈ format02X number, isHex c = true) ↔
      0 ≤ number ∧ number ≤ 255 := by
  have digits : ∀ c ∈ upperDigits, isHex c = true := by decide
  cases number with
  | ofNat n =>
      have length : (format02X (.ofNat n)).length = 2 ↔ n < 256 := by
        rw [format02X, List.length_leftpad, ← length_hexUpper_le_iff]
        omega
      rw [length]
      constructor
      · intro ⟨small, _⟩
        simp only [Int.ofNat_eq_natCast]
        omega
      · intro ⟨_, small⟩
        simp only [Int.ofNat_eq_natCast] at small
        exact ⟨by omega, fun c member => digits c (mem_format02X_ofNat n c member)⟩
  | negSucc n =>
      constructor
      · intro ⟨_, hex⟩
        have sign := hex '-' (by simp [format02X])
        exact absurd sign (by decide)
      · intro ⟨positive, _⟩
        simp at positive

theorem readDigits_hexUpper (n : Nat) : readDigits 16 0 (hexUpper n) = n := by
  have cased : ∀ c ∈ Nat.toDigits 16 n, digitValue c.toUpper = digitValue c := by
    have all : ∀ digit < 16, digitValue (Nat.digitChar digit).toUpper = digitValue (Nat.digitChar digit) := by
      decide
    intro c member
    obtain ⟨digit, small, same⟩ := mem_toDigits (by decide) n c member
    rw [same]
    exact all digit small
  have folded : readDigits 16 0 (hexUpper n) = readDigits 16 0 (Nat.toDigits 16 n) := by
    rw [readDigits, readDigits, hexUpper, List.foldl_map]
    exact List.foldl_ext _ _ _ fun value c member => by rw [cased c member]
  rw [folded]
  exact readDigits_toDigits (by decide) (by decide) n

/-- The padding does not count. -/
theorem readDigits_format02X (n : Nat) : readDigits 16 0 (format02X (.ofNat n)) = n := by
  have zeros : ∀ count, readDigits 16 0 (List.replicate count '0') = 0 := by
    intro count
    induction count with
    | zero => rfl
    | succ count ih => exact ih
  rw [format02X, List.leftpad, readDigits_append, zeros, readDigits_hexUpper]

theorem format02X_injective {first second : Int} (positive : 0 ≤ first) (positive' : 0 ≤ second)
    (same : format02X first = format02X second) : first = second := by
  obtain ⟨n, rfl⟩ := Int.eq_ofNat_of_zero_le positive
  obtain ⟨m, rfl⟩ := Int.eq_ofNat_of_zero_le positive'
  have read := congrArg (readDigits 16 0) same
  rw [← Int.ofNat_eq_natCast, ← Int.ofNat_eq_natCast, readDigits_format02X, readDigits_format02X] at read
  rw [read]

end DongleRescue.Data
