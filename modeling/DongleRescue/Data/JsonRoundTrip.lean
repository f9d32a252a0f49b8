import DongleRescue.Data.JsonReader

namespace DongleRescue.Data.Json

/-! The reader gives back what the encoder wrote, and accepts nothing after it. -/

section Runs

variable {config : Config} {stack : List Frame}

theorem run_append (config : Config) (first second : Str) :
    run config (first ++ second) = (run config first).bind (run · second) :=
  List.foldlM_append

theorem run_cons (config : Config) (c : Char) (text : Str) :
    run config (c :: text) = (step config c).bind (run · text) :=
  List.foldlM_cons

theorem run_nil (config : Config) : run config [] = some config := rfl

end Runs

section Strings

variable {read : Str} {stack : List Frame} {high : Option Nat}

theorem run_unicode {digits : Str} (nonempty : digits ≠ []) (hex : ∀ c ∈ digits, isHex c = true)
    (code : Nat) :
    run (.unicode read high digits.length code, stack) digits =
      (scalar read high (readDigits 16 code digits)).map (·, stack) := by
  induction digits generalizing code with
  | nil => contradiction
  | cons c digits ih =>
      have digit : isHex c = true := hex c (by simp)
      cases digits with
      | nil => simp [run_cons, step, digit, readDigits, run_nil, Option.bind_fun_some]
      | cons d digits =>
          have tail := ih (List.cons_ne_nil d digits) (fun e member => hex e (by simp [member]))
            (code * 16 + digitValue c)
          have more : ¬ (c :: d :: digits).length = 1 := by simp
          rw [run_cons, step, if_pos digit, if_neg more, Option.bind_some]
          exact tail

theorem run_unicodeEscape {n : Nat} (small : n < 0x10000) :
    run (.text read high, stack) (unicodeEscape n) = (scalar read high n).map (·, stack) := by
  have length : ((Nat.toDigits 16 n).leftpad 4 '0').length = 4 := by
    have short : (Nat.toDigits 16 n).length ≤ 4 :=
      (Nat.length_toDigits_le_iff (by decide) (by decide)).mpr small
    rw [List.length_leftpad]
    omega
  have hex : ∀ c ∈ (Nat.toDigits 16 n).leftpad 4 '0', isHex c = true := by
    have all : ∀ digit < 16, isHex (Nat.digitChar digit) = true := by decide
    intro c member
    rw [List.leftpad, List.mem_append] at member
    rcases member with padding | inDigits
    · rw [List.eq_of_mem_replicate padding]
      decide
    · obtain ⟨digit, below, same⟩ := mem_toDigits (by decide) n c inDigits
      rw [same]
      exact all digit below
  have value : readDigits 16 0 ((Nat.toDigits 16 n).leftpad 4 '0') = n := by
    have zeros : ∀ count, readDigits 16 0 (List.replicate count '0') = 0 := by
      intro count
      induction count with
      | zero => rfl
      | succ count ih => exact ih
    rw [List.leftpad, readDigits_append, zeros]
    exact readDigits_toDigits (by decide) (by decide) n
  have nonempty : (Nat.toDigits 16 n).leftpad 4 '0' ≠ [] := by
    intro empty
    rw [empty] at length
    cases length
  have digits : run (.unicode read high _ 0, stack) _ = _ := run_unicode nonempty hex 0
  rw [length, value] at digits
  exact digits

private theorem eq_ofNat {c : Char} {n : Nat} (same : c.toNat = n) : c = Char.ofNat n := by
  rw [← same, Char.ofNat_toNat]

private theorem scalar_of_char {c : Char} (basic : c.toNat < 0x10000) :
    scalar read none c.toNat = some (.text (read ++ [c]) none) := by
  have valid : c.toNat.isValidChar := c.valid
  have notHigh : ¬ (0xD800 ≤ c.toNat ∧ c.toNat < 0xDC00) := by
    rcases valid with below | above <;> omega
  have notLow : ¬ (0xDC00 ≤ c.toNat ∧ c.toNat < 0xE000) := by
    rcases valid with below | above <;> omega
  rw [scalar, if_neg notHigh, if_neg notLow, Char.ofNat_toNat]

/-- Outside the basic plane the two halves of a pair are put together again. -/
private theorem run_pair {c : Char} (astral : 0x10000 ≤ c.toNat) :
    run (.text read none, stack) (unicodeEscape (0xD800 + (c.toNat - 0x10000) / 0x400) ++
      unicodeEscape (0xDC00 + (c.toNat - 0x10000) % 0x400)) = some (.text (read ++ [c]) none, stack) := by
  have below : c.toNat < 0x110000 := by
    have valid : c.toNat.isValidChar := c.valid
    rcases valid with below | above <;> omega
  have high : scalar read none (0xD800 + (c.toNat - 0x10000) / 0x400) =
      some (.text read (some (0xD800 + (c.toNat - 0x10000) / 0x400))) := by
    rw [scalar, if_pos (by omega)]
  have whole : 0x10000 + (0xD800 + (c.toNat - 0x10000) / 0x400 - 0xD800) * 0x400 +
      (0xDC00 + (c.toNat - 0x10000) % 0x400 - 0xDC00) = c.toNat := by omega
  have low : scalar read (some (0xD800 + (c.toNat - 0x10000) / 0x400))
      (0xDC00 + (c.toNat - 0x10000) % 0x400) = some (.text (read ++ [c]) none) := by
    rw [scalar, if_pos (by omega), whole, Char.ofNat_toNat]
  rw [run_append, run_unicodeEscape (by omega), high, Option.map_some, Option.bind_some,
    run_unicodeEscape (by omega), low]
  rfl

theorem run_escapeChar (c : Char) :
    run (.text read none, stack) (escapeChar c) = some (.text (read ++ [c]) none, stack) := by
  simp only [escapeChar]
  split_ifs with quote backslash newline carriage tab feed backspace printable basic
  · rw [quote]
    rfl
  · rw [backslash]
    rfl
  · rw [newline]
    rfl
  · rw [carriage]
    rfl
  · rw [tab]
    rfl
  · rw [eq_ofNat feed]
    rfl
  · rw [eq_ofNat backspace]
    rfl
  · have kept : step (.text read none, stack) c = some (.text (read ++ [c]) none, stack) := by
      simp [step, quote, backslash, Nat.not_lt.mpr printable.1]
    rw [run_cons, kept]
    rfl
  · rw [run_unicodeEscape basic, scalar_of_char basic]
    rfl
  · exact run_pair (Nat.not_lt.mp basic)

theorem run_quoted (text : Str) :
    run (.text read none, stack) (text.flatMap escapeChar ++ ['"']) =
      some (.after (.str (read ++ text)), stack) := by
  induction text generalizing read with
  | nil => simp [run_cons, step, run_nil]
  | cons c text ih =>
      rw [List.flatMap_cons, List.append_assoc, run_append, run_escapeChar, Option.bind_some, ih,
        List.append_assoc]
      rfl

end Strings

section Values

variable {config : Config} {value : Json} {stack : List Frame} {spacing : Spacing}

/-- The value has been read; a number only ends with the character after it. -/
def Ready (config : Config) (value : Json) (stack : List Frame) : Prop :=
  config = (.after value, stack) ∨
    ∃ negative digits, config = (.number negative digits, stack) ∧
      numberValue negative digits = some value

theorem Ready.step {c : Char} (ready : Ready config value stack) (ends : isNumberChar c = false) :
    Json.step config c = close value stack c := by
  rcases ready with after | ⟨negative, digits, number, read⟩
  · rw [after, Json.step]
  · rw [number, Json.step, ends, read]
    rfl

theorem Ready.finish (ready : Ready config value []) : Json.finish config = some value := by
  rcases ready with after | ⟨negative, digits, number, read⟩
  · rw [after, Json.finish]
  · rw [number, Json.finish, read]

def Reads (spacing : Spacing) (value : Json) : Prop :=
  ∀ stack, expectsKey stack = false → ∃ config,
    run (.value, stack) (encode spacing value) = some config ∧ Ready config (sortKeys value) stack

theorem run_blanks {blanks text : Str} (blank : ∀ c ∈ blanks, isBlank c = true) :
    run (.value, stack) (blanks ++ text) = run (.value, stack) text := by
  induction blanks with
  | nil => rfl
  | cons c blanks ih =>
      have skipped : Json.step (.value, stack) c = some (.value, stack) := by
        rw [Json.step, if_pos (blank c (by simp))]
      rw [List.cons_append, run_cons, skipped, Option.bind_some]
      exact ih fun d member => blank d (by simp [member])

theorem run_number {negative : Bool} {digits more : Str}
    (parts : ∀ c ∈ more, isNumberChar c = true) :
    run (.number negative digits, stack) more = some (.number negative (digits ++ more), stack) := by
  induction more generalizing digits with
  | nil => rw [List.append_nil, run_nil]
  | cons c more ih =>
      rw [run_cons, Json.step, if_pos (parts c (by simp)), Option.bind_some,
        ih fun d member => parts d (by simp [member]), List.append_assoc]
      rfl

theorem numberValue_decimal (negative : Bool) (n : Nat) :
    numberValue negative (decimal n) = some (.int (if negative then -(n : Int) else n)) := by
  have magnitude : readDigits 10 0 (decimal n) = n := readDigits_toDigits (by decide) (by decide) n
  simp only [numberValue, magnitude, if_true]

theorem forall_startsNumber {property : Char → Prop} (all : ∀ c ∈ ("0123456789NI" : Str), property c) {c : Char}
    (first : startsNumber c = true) : property c := by
  rw [startsNumber, Bool.or_eq_true] at first
  rcases first with digit | letter
  · exact all c (List.mem_append_left ("NI" : Str) (List.contains_iff_mem.mp digit))
  · exact all c (List.mem_append_right ("0123456789" : Str) (List.contains_iff_mem.mp letter))

theorem start_number {c : Char} (free : expectsKey stack = false) (first : startsNumber c = true) :
    Json.step (.value, stack) c = some (.number false [c], stack) := by
  have all : ∀ c ∈ ("0123456789NI" : Str), isBlank c = false ∧ c ≠ '"' ∧ c ≠ '[' ∧ c ≠ '\x7b' ∧
      c ≠ 'n' ∧ c ≠ 't' ∧ c ≠ 'f' ∧ c ≠ '-' := by decide
  obtain ⟨blank, others⟩ := forall_startsNumber all first
  simp [Json.step, start, blank, others, free, first]

theorem reads_int (value : Int) : Reads spacing (.int value) := by
  intro stack free
  cases value with
  | ofNat n =>
      obtain ⟨c, digits, split⟩ : ∃ c digits, decimal n = c :: digits :=
        List.exists_cons_of_ne_nil Nat.toDigits_ne_nil
      have decimals := isDecimalDigit_decimal n
      rw [split, List.forall_mem_cons] at decimals
      refine ⟨(.number false (decimal n), stack), ?_, .inr ⟨false, decimal n, rfl, ?_⟩⟩
      · rw [encode, numeral, split, run_cons, start_number free (by rw [startsNumber, decimals.1]; rfl), Option.bind_some,
          run_number fun d member => isNumberChar_of_isDecimalDigit (decimals.2 d member)]
        rfl
      · exact numberValue_decimal false n
  | negSucc n =>
      refine ⟨(.number true (decimal (n + 1)), stack), ?_, .inr ⟨true, decimal (n + 1), rfl, ?_⟩⟩
      · have sign : Json.step (.value, stack) '-' = some (.number true [], stack) := by
          simp [Json.step, start, isBlank, free]
        rw [encode, numeral, run_cons, sign, Option.bind_some,
          run_number fun d member => isNumberChar_of_isDecimalDigit (isDecimalDigit_decimal (n + 1) d member),
          List.nil_append]
      · rw [numberValue_decimal]
        rfl

theorem numberValue_float {negative : Bool} {digits : Str} {number : JsonFloat}
    (spelled : signed negative digits = number.text) (unread : ∃ c ∈ digits, isDecimalDigit c = false) :
    numberValue negative digits = some (.float number) := by
  have noInteger : decimal (readDigits 10 0 digits) ≠ digits := by
    intro same
    obtain ⟨c, member, notDigit⟩ := unread
    rw [isDecimalDigit_decimal _ c (same ▸ member)] at notDigit
    cases notDigit
  obtain ⟨text, valid⟩ := number
  simp only at spelled
  subst spelled
  rw [numberValue, if_neg noInteger, dif_pos valid]

theorem float_starts (number : JsonFloat) : (∃ rest, number.text = '-' :: rest) ∨
    unsigned number.text = number.text ∧ ∃ c rest, number.text = c :: rest ∧ startsNumber c = true := by
  cases text : number.text with
  | nil =>
      obtain ⟨c, member, _⟩ := exists_notDigit_float number
      rw [text] at member
      cases member
  | cons c rest =>
      by_cases minus : c = '-'
      · exact .inl ⟨rest, by rw [minus]⟩
      · have same : unsigned (c :: rest) = c :: rest := by
          unfold unsigned
          split
          · rename_i split
            exact absurd (List.cons.inj split).1 minus
          · rfl
        refine .inr ⟨same, c, rest, rfl, ?_⟩
        have cases := float_cases number
        rw [text, same] at cases
        rcases cases with nan | infinity | ⟨whole, _⟩
        · rw [(List.cons.inj nan).1]
          decide
        · rw [(List.cons.inj infinity).1]
          decide
        · rw [startsNumber, Bool.or_eq_true]
          refine .inl ?_
          by_contra notDigit
          exact whole (List.takeWhile_cons_of_neg notDigit)

theorem reads_float (number : JsonFloat) : Reads spacing (.float number) := by
  intro stack free
  have unread := exists_notDigit_float number
  have parts := isNumberChar_float number
  rcases float_starts number with ⟨rest, text⟩ | ⟨plain, c, rest, text, first⟩
  · rw [text, List.forall_mem_cons] at parts
    rw [text] at unread
    have sign : Json.step (.value, stack) '-' = some (.number true [], stack) := by
      simp [Json.step, start, isBlank, free]
    refine ⟨(.number true rest, stack), ?_, .inr ⟨true, rest, rfl, numberValue_float text.symm unread⟩⟩
    rw [encode, text, run_cons, sign, Option.bind_some, run_number parts.2, List.nil_append]
  · rw [text, List.forall_mem_cons] at parts
    rw [plain, text] at unread
    refine ⟨(.number false (c :: rest), stack), ?_, .inr ⟨false, c :: rest, rfl, numberValue_float text.symm unread⟩⟩
    rw [encode, text, run_cons, start_number free first, Option.bind_some, run_number parts.2]
    rfl

theorem run_list {items : List Json} (nonempty : items ≠ [])
    (each : ∀ item ∈ items, Reads spacing item) (done : List Json) :
    run (.value, .list done :: stack)
        (join (',' :: spacing.space) (items.map (encode spacing)) ++ [']']) =
      some (.after (.list (done ++ items.map sortKeys)), stack) := by
  induction items generalizing done with
  | nil => contradiction
  | cons item items ih =>
      obtain ⟨config, read, ready⟩ := each item (by simp) (.list done :: stack) rfl
      cases items with
      | nil =>
          have closed := ready.step (c := ']') rfl
          rw [List.map_singleton, List.map_singleton, join_singleton, run_append, read,
            Option.bind_some, run_cons, closed]
          rfl
      | cons next items =>
          have comma := ready.step (c := ',') rfl
          have tail := ih (List.cons_ne_nil next items) (fun later member => each later (by simp [member]))
            (done ++ [sortKeys item])
          rw [List.map_cons, List.map_cons, join_cons_cons, List.append_assoc, List.append_assoc,
            run_append, read, Option.bind_some, List.cons_append, run_cons, comma]
          refine (run_blanks spacing.blank).trans (tail.trans ?_)
          simp

theorem insert_of_notMem {items : List (Str × Json)} {key : Str}
    (fresh : key ∉ items.map Prod.fst) : insert items key value = items ++ [(key, value)] :=
  if_neg fresh

theorem run_quote {text : Str} (stack : List Frame) :
    run (.value, stack) (quote text) = some (.after (.str text), stack) :=
  run_quoted text

theorem run_dict {items : List (Str × Json)} (nonempty : items ≠ [])
    (each : ∀ item ∈ items, Reads spacing item.2) (done : List (Str × Json))
    (distinct : ((done ++ items).map Prod.fst).Nodup) :
    run (.value, .key done :: stack) (join (',' :: spacing.space)
        (items.map fun item => member spacing item.1 (encode spacing item.2)) ++ ['\x7d']) =
      some (.after (.dict (done ++ items.map (Prod.map id sortKeys))), stack) := by
  induction items generalizing done with
  | nil => contradiction
  | cons item items ih =>
      obtain ⟨key, value⟩ := item
      obtain ⟨config, read, ready⟩ := each (key, value) (by simp) (.item done key :: stack) rfl
      have fresh : key ∉ done.map Prod.fst := by
        rw [List.map_append, List.map_cons, List.nodup_middle, List.nodup_cons, List.mem_append] at distinct
        exact fun inDone => distinct.1 (.inl inDone)
      have entry : ∀ rest, run (.value, .key done :: stack)
          (member spacing key (encode spacing value) ++ rest) = run config rest := by
        intro rest
        have colon : Json.step (.after (.str key), .key done :: stack) ':' =
            some (.value, .item done key :: stack) := rfl
        rw [member, List.append_assoc, run_append, run_quote, Option.bind_some, List.cons_append,
          run_cons, colon, Option.bind_some, List.append_assoc, run_blanks spacing.blank, run_append,
          read]
        rfl
      cases items with
      | nil =>
          have closed := ready.step (c := '\x7d') rfl
          rw [List.map_singleton, List.map_singleton, join_singleton, entry, run_cons, closed, close,
            insert_of_notMem fresh]
          rfl
      | cons next items =>
          have comma := ready.step (c := ',') rfl
          have tail := ih (List.cons_ne_nil next items) (fun later member => each later (by simp [member]))
            (done ++ [(key, sortKeys value)]) (by simpa using distinct)
          rw [List.map_cons, List.map_cons, join_cons_cons, List.append_assoc, List.append_assoc, entry,
            List.cons_append, run_cons, comma, close, insert_of_notMem fresh]
          refine (run_blanks spacing.blank).trans (tail.trans ?_)
          simp

/-- How a value starts: not with white space, and not as a list or a dict ends. -/
def Opens (text : Str) : Prop :=
  ∃ c rest, text = c :: rest ∧ isBlank c = false ∧ c ≠ ']' ∧ c ≠ '\x7d'

theorem opens_encode (value : Json) : Opens (encode spacing value) := by
  cases value with
  | null => exact ⟨'n', _, rfl, by decide⟩
  | bool value => cases value <;> exact ⟨_, _, rfl, by decide⟩
  | int value =>
      cases value with
      | ofNat n =>
          have all : ∀ c ∈ ("0123456789" : Str), isBlank c = false ∧ c ≠ ']' ∧ c ≠ '\x7d' := by decide
          obtain ⟨c, digits, split⟩ : ∃ c digits, decimal n = c :: digits :=
            List.exists_cons_of_ne_nil Nat.toDigits_ne_nil
          have digit : isDecimalDigit c = true := isDecimalDigit_decimal n c (by simp [split])
          exact ⟨c, digits, split, all c (List.contains_iff_mem.mp digit)⟩
      | negSucc n => exact ⟨'-', _, rfl, by decide⟩
  | float number =>
      have all : ∀ c ∈ ("0123456789NI" : Str), isBlank c = false ∧ c ≠ ']' ∧ c ≠ '\x7d' := by decide
      rcases float_starts number with ⟨rest, text⟩ | ⟨_, c, rest, text, first⟩
      · exact ⟨'-', rest, text, by decide⟩
      · exact ⟨c, rest, text, forall_startsNumber all first⟩
  | str value => exact ⟨'"', _, rfl, by decide⟩
  | list items => exact ⟨'[', _, rfl, by decide⟩
  | dict items => exact ⟨'\x7b', _, rfl, by decide⟩

theorem Opens.append {text : Str} (opens : Opens text) (rest : Str) : Opens (text ++ rest) := by
  obtain ⟨c, tail, split, first⟩ := opens
  exact ⟨c, tail ++ rest, by rw [split, List.cons_append], first⟩

theorem Opens.join {separator text : Str} {texts : List Str} (opens : Opens text) :
    Opens (join separator (text :: texts)) := by
  cases texts with
  | nil => rwa [join_singleton]
  | cons next texts =>
      rw [join_cons_cons]
      exact opens.append _

/-- After an opening bracket a first value is read as any other. -/
theorem run_opened {text : Str} (opens : Opens text) {frame : Frame}
    (empty : frame = .list [] ∨ frame = .key []) :
    run (.opened, frame :: stack) text = run (.value, frame :: stack) text := by
  obtain ⟨c, rest, split, notBlank, notList, notDict⟩ := opens
  rw [split, run_cons, run_cons]
  rcases empty with list | key
  · simp [Json.step, notBlank, notList, list]
  · simp [Json.step, notBlank, notDict, key]

/-- The encoding of a value is read back with its keys sorted, wherever it stands. -/
theorem reads (value : Json) (distinct : value.DistinctKeys) : Reads spacing value := by
  induction value with
  | null =>
      intro stack free
      have first : Json.step (.value, stack) 'n' = some (.word "ull" .null, stack) := by
        simp [Json.step, start, isBlank, free]
      exact ⟨(.after .null, stack), congrArg (Option.bind · (run · "ull")) first, .inl rfl⟩
  | bool value =>
      intro stack free
      cases value with
      | false =>
          have first : Json.step (.value, stack) 'f' = some (.word "alse" (.bool false), stack) := by
            simp [Json.step, start, isBlank, free]
          exact ⟨_, congrArg (Option.bind · (run · "alse")) first, .inl rfl⟩
      | true =>
          have first : Json.step (.value, stack) 't' = some (.word "rue" (.bool true), stack) := by
            simp [Json.step, start, isBlank, free]
          exact ⟨_, congrArg (Option.bind · (run · "rue")) first, .inl rfl⟩
  | int value => exact reads_int value
  | float number => exact reads_float number
  | str text => exact fun stack _ => ⟨_, run_quote stack, .inl rfl⟩
  | list items ih =>
      intro stack free
      rw [DistinctKeys, distinctKeysList_iff] at distinct
      have bracket : Json.step (.value, stack) '[' = some (.opened, .list [] :: stack) := by
        simp [Json.step, start, isBlank, free]
      refine ⟨(.after (sortKeys (.list items)), stack), ?_, .inl rfl⟩
      rw [encode_list, List.cons_append, run_cons, bracket, Option.bind_some, sortKeys, sortKeysList_eq]
      cases items with
      | nil => rfl
      | cons item items =>
          exact (run_opened ((opens_encode item).join.append _) (.inl rfl)).trans
            (run_list (List.cons_ne_nil item items)
              (fun item member => ih item member (distinct item member)) [])
  | dict items ih =>
      intro stack free
      rw [DistinctKeys, distinctKeysItems_iff] at distinct
      have bracket : Json.step (.value, stack) '\x7b' = some (.opened, .key [] :: stack) := by
        simp [Json.step, start, isBlank, free]
      have texts : (Keyed.sorted (items.map (Prod.map id (encode spacing)))).map
            (fun item => member spacing item.1 item.2) =
          (Keyed.sorted items).map fun item => member spacing item.1 (encode spacing item.2) := by
        rw [← Keyed.map_sorted, List.map_map]
        rfl
      have values : Keyed.sorted (sortKeysItems items) =
          (Keyed.sorted items).map (Prod.map id sortKeys) := by
        rw [sortKeysItems_eq, Keyed.map_sorted]
      have keys : ((Keyed.sorted items).map Prod.fst).Nodup :=
        ((Keyed.sorted_perm items).map Prod.fst).nodup_iff.mpr distinct.1
      refine ⟨(.after (sortKeys (.dict items)), stack), ?_, .inl rfl⟩
      rw [encode_dict, texts, List.cons_append, run_cons, bracket, Option.bind_some, sortKeys, values]
      have each : ∀ item ∈ Keyed.sorted items, Reads spacing item.2 := by
        intro item inSorted
        have inItems := (Keyed.sorted_perm items).mem_iff.mp inSorted
        exact ih item inItems (distinct.2 item inItems)
      cases split : Keyed.sorted items with
      | nil => rfl
      | cons item rest =>
          rw [split] at each keys
          have opens : Opens (member spacing item.1 (encode spacing item.2)) := ⟨'"', _, rfl, by decide⟩
          exact (run_opened (opens.join.append _) (.inr rfl)).trans
            (run_dict (List.cons_ne_nil item rest) each [] keys)

/-- Reading inverts encoding, up to the order of keys. -/
theorem readDocument_encode (distinct : value.DistinctKeys) :
    readDocument (encode spacing value) = some (sortKeys value) := by
  obtain ⟨config, read, ready⟩ := (reads value distinct : Reads spacing value) [] rfl
  rw [readDocument, read, Option.bind_some, ready.finish]

theorem readDocument_blanks {blanks text : Str} (blank : ∀ c ∈ blanks, isBlank c = true) :
    readDocument (blanks ++ text) = readDocument text := by
  rw [readDocument, run_blanks blank, readDocument]

theorem ready_of_finish (finished : finish config = some value) : Ready config value [] := by
  match config, finished with
  | (.after value, []), finished =>
      cases finished
      exact .inl rfl
  | (.number negative digits, []), finished => exact .inr ⟨negative, digits, rfl, finished⟩

/-- Nothing but white space, or more digits, may follow a document. -/
theorem readDocument_extra {text rest : Str} {c : Char} (read : readDocument text = some value)
    (notBlank : isBlank c = false) (notNumber : isNumberChar c = false) :
    readDocument (text ++ c :: rest) = none := by
  rw [readDocument, Option.bind_eq_some_iff] at read
  obtain ⟨config, whole, finished⟩ := read
  have stuck : step config c = none := by
    rw [(ready_of_finish finished).step notNumber, close, notBlank]
    rfl
  rw [readDocument, run_append, whole, Option.bind_some, run_cons, stuck]
  rfl

/-- A document does not start with white space of another kind than JSON's. -/
theorem readDocument_foreign {blanks rest : Str} {c : Char}
    (blank : ∀ c ∈ blanks, isBlank c = true) (space : isSpace c = true)
    (notBlank : isBlank c = false) : readDocument (blanks ++ c :: rest) = none := by
  have others : ∀ d ∈ ("\"[\x7bntf-0123456789NI" : Str), isSpace d = false := by decide
  have different : ∀ d ∈ ("\"[\x7bntf-0123456789NI" : Str), c ≠ d := by
    intro d member same
    rw [same, others d member] at space
    cases space
  have notNumber : startsNumber c = false := by
    rw [Bool.eq_false_iff]
    intro first
    refine different c ?_ rfl
    exact @forall_startsNumber (· ∈ ("\"[\x7bntf-0123456789NI" : Str)) (by decide) c first
  have stuck : step (.value, []) c = none := by
    simp [step, start, notBlank, notNumber, expectsKey, different '"' (by decide),
      different '[' (by decide), different '\x7b' (by decide), different 'n' (by decide),
      different 't' (by decide), different 'f' (by decide), different '-' (by decide)]
  rw [readDocument_blanks blank, readDocument, run_cons, stuck]
  rfl

end Values

end DongleRescue.Data.Json
