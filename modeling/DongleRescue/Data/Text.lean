import Mathlib.Data.Char
import Mathlib.Data.List.DropRight
import Mathlib.Data.List.Lex
import Mathlib.Data.List.Sort
import Mathlib.Data.List.TakeDrop

namespace DongleRescue.Data

/-! Text as the list of its code points, with the string operations of the
standard library that programs over paths, log lines and table rows use.  The
case operations are the ASCII ones: they are applied to text that a closed ASCII
grammar has accepted, or compared with such text. -/

abbrev Str := List Char

instance : Coe String Str := ⟨String.toList⟩

/-! A property of all characters of a text is decided along the text; the general
instance would run through every character there is. -/

instance decidableForallMem (text : Str) (property : Char → Prop) [DecidablePred property] :
    Decidable (∀ c ∈ text, property c) :=
  List.decidableBAll property text

instance decidableForallMemOption (first : Option Char) (property : Char → Prop) [DecidablePred property] :
    Decidable (∀ c ∈ first, property c) :=
  match first with
  | none => isTrue (fun _ member => nomatch member)
  | some c => decidable_of_iff (property c) (by simp)

/-- Whitespace in the sense of `str.strip` and of the class `\s`. -/
def isSpace (c : Char) : Bool :=
  let n := c.toNat
  (9 ≤ n && n ≤ 13) || (28 ≤ n && n ≤ 32) || n == 0x85 || n == 0xA0 || n == 0x1680 ||
    (0x2000 ≤ n && n ≤ 0x200A) || n == 0x2028 || n == 0x2029 || n == 0x202F ||
    n == 0x205F || n == 0x3000

/-- The separators of `str.splitlines`. -/
def isLineBreak (c : Char) : Bool :=
  let n := c.toNat
  (10 ≤ n && n ≤ 13) || (28 ≤ n && n ≤ 30) || n == 0x85 || n == 0x2028 || n == 0x2029

def startsWith (text start : Str) : Bool := start.isPrefixOf text

def endsWith (text tail : Str) : Bool := tail.isSuffixOf text

/-- Does `part` occur in `text`? -/
def contains : Str → Str → Bool
  | [], part => part.isEmpty
  | c :: rest, part => startsWith (c :: rest) part || contains rest part

def lower (text : Str) : Str := text.map Char.toLower

def upper (text : Str) : Str := text.map Char.toUpper

def stripWhile (drop : Char → Bool) (text : Str) : Str :=
  (text.dropWhile drop).rdropWhile drop

def strip (text : Str) : Str := stripWhile isSpace text

def basename (path : Str) : Str := path.rtakeWhile (· != '/')

def splitlinesAfter : Str → Str → List Str
  | pending, [] => if pending = [] then [] else [pending.reverse]
  | pending, '\r' :: '\n' :: rest => pending.reverse :: splitlinesAfter [] rest
  | pending, c :: rest =>
      if isLineBreak c then pending.reverse :: splitlinesAfter [] rest
      else splitlinesAfter (c :: pending) rest

def splitlines (text : Str) : List Str := splitlinesAfter [] text

def join (separator : Str) (parts : List Str) : Str := separator.intercalate parts

def textLe : Str → Str → Bool
  | [], _ => true
  | _ :: _, [] => false
  | a :: left, b :: right => decide (a.toNat < b.toNat) || (a == b && textLe left right)

def sortTexts (texts : List Str) : List Str :=
  texts.insertionSort (fun left right => textLe left right = true)

def hexDigits : Str := "0123456789abcdefABCDEF"

def isHex (c : Char) : Bool := hexDigits.contains c

def isDecimalDigit (c : Char) : Bool := ("0123456789" : Str).contains c

def decimal (n : Nat) : Str := Nat.toDigits 10 n

def hexUpper (n : Nat) : Str := (Nat.toDigits 16 n).map Char.toUpper

/-- The format `02X`: sign, then upper-case digits, zero-padded to width two. -/
def format02X : Int → Str
  | .ofNat n => (hexUpper n).leftpad 2 '0'
  | .negSucc n => '-' :: hexUpper (n + 1)

theorem textLe_iff {left right : Str} : textLe left right = true ↔ left ≤ right := by
  rw [← not_lt]
  induction left generalizing right with
  | nil => simp [textLe]
  | cons a left ih =>
      cases right with
      | nil => simp [textLe]
      | cons b right =>
          have below : a.toNat < b.toNat ↔ a < b := Iff.rfl
          rw [List.cons_lt_cons_iff, textLe, Bool.or_eq_true, Bool.and_eq_true, decide_eq_true_eq,
            beq_iff_eq, ih, below]
          rcases lt_trichotomy a b with less | same | more
          · simp [less, less.not_gt, less.ne']
          · simp [same]
          · simp [more, more.not_gt, more.ne']

theorem sortTexts_pairwise (texts : List Str) : (sortTexts texts).Pairwise (· ≤ ·) := by
  have same := List.map_insertionSort (· ≤ ·) (fun left right : Str => textLe left right = true) id texts
    fun left _ right _ => (textLe_iff : textLe left right = true ↔ _).symm
  rw [List.map_id, List.map_id] at same
  rw [sortTexts, ← same]
  exact List.pairwise_insertionSort (· ≤ ·) texts

theorem sortTexts_perm (texts : List Str) : (sortTexts texts).Perm texts :=
  List.perm_insertionSort (fun left right => textLe left right = true) texts

theorem sortTexts_eq_of_perm {first second : List Str} (perm : first.Perm second) :
    sortTexts first = sortTexts second := by
  have whole : (sortTexts first).Perm (sortTexts second) :=
    (sortTexts_perm first).trans (perm.trans (sortTexts_perm second).symm)
  exact whole.eq_of_pairwise (fun _ _ _ _ => le_antisymm) (sortTexts_pairwise first) (sortTexts_pairwise second)

theorem nodup_eraseDups (texts : List Str) : texts.eraseDups.Nodup := by
  induction length : texts.length using Nat.strong_induction_on generalizing texts with
  | _ size ih =>
      cases texts with
      | nil => simp
      | cons text texts =>
          have shorter : (texts.filter fun other => !other == text).length < size := by
            rw [← length, List.length_cons]
            exact Nat.lt_succ_of_le (List.length_filter_le _ _)
          rw [List.eraseDups_cons, List.nodup_cons]
          exact ⟨by simp, ih _ shorter _ rfl⟩

/-- Without order and repetition, texts are the set of them. -/
theorem eraseDups_perm {first second : List Str} (same : ∀ text, text ∈ first ↔ text ∈ second) :
    first.eraseDups.Perm second.eraseDups := by
  rw [List.perm_ext_iff_of_nodup (nodup_eraseDups first) (nodup_eraseDups second)]
  intro text
  rw [List.mem_eraseDups, List.mem_eraseDups, same]

/-- A search in sorted order finds the least hit. -/
theorem find?_sortTexts_iff {texts : List Str} {hit : Str → Bool} {text : Str} :
    (sortTexts texts).find? hit = some text ↔
      text ∈ texts ∧ hit text = true ∧ ∀ other ∈ texts, hit other = true → text ≤ other := by
  have least : ∀ {found}, (sortTexts texts).find? hit = some found →
      found ∈ texts ∧ hit found = true ∧ ∀ other ∈ texts, hit other = true → found ≤ other := by
    intro found first
    obtain ⟨hits, before, after, split, missed⟩ := List.find?_eq_some_iff_append.mp first
    have ordered : (before ++ found :: after).Pairwise (· ≤ ·) := split ▸ sortTexts_pairwise texts
    obtain ⟨below, _⟩ := List.pairwise_cons.mp (List.pairwise_append.mp ordered).2.1
    refine ⟨(sortTexts_perm texts).mem_iff.mp (List.mem_of_find?_eq_some first), hits, fun other member hits' => ?_⟩
    have inSorted := (sortTexts_perm texts).mem_iff.mpr member
    rw [split, List.mem_append, List.mem_cons] at inSorted
    rcases inSorted with early | same | late
    · have miss := missed other early
      rw [hits'] at miss
      cases miss
    · exact le_of_eq same.symm
    · exact below other late
  constructor
  · exact least
  · intro ⟨member, hits, below⟩
    cases first : (sortTexts texts).find? hit with
    | none =>
        have miss := List.find?_eq_none.mp first text ((sortTexts_perm texts).mem_iff.mpr member)
        exact absurd hits miss
    | some found =>
        obtain ⟨inTexts, hits', below'⟩ := least first
        rw [le_antisymm (below found inTexts hits') (below' text member hits)]

@[simp] theorem startsWith_append (start rest : Str) :
    startsWith (start ++ rest) start = true := by
  simp [startsWith]

theorem startsWith_iff {text start : Str} :
    startsWith text start = true ↔ ∃ rest, text = start ++ rest := by
  rw [startsWith, List.isPrefixOf_iff_prefix]
  constructor
  · rintro ⟨rest, rfl⟩
    exact ⟨rest, rfl⟩
  · rintro ⟨rest, rfl⟩
    exact ⟨rest, rfl⟩

theorem stripWhile_eq_self {drop : Char → Bool} {text : Str}
    (first : ∀ c ∈ text.head?, drop c = false)
    (last : ∀ c ∈ text.getLast?, drop c = false) :
    stripWhile drop text = text := by
  have left : text.dropWhile drop = text := by
    cases text with
    | nil => rfl
    | cons c rest => simp [first c (by simp)]
  rw [stripWhile, left, List.rdropWhile_eq_self_iff]
  intro nonempty
  simp [last _ (List.getLast?_eq_some_getLast nonempty)]

/-- What stripping leaves does not begin or end with what it drops. -/
theorem stripWhile_ends (drop : Char → Bool) (text : Str) :
    (∀ c ∈ (stripWhile drop text).head?, drop c = false) ∧
      ∀ c ∈ (stripWhile drop text).getLast?, drop c = false := by
  constructor
  · intro c first
    obtain ⟨trailing, split⟩ := List.rdropWhile_prefix drop (text.dropWhile drop)
    obtain ⟨rest, here⟩ := List.head?_eq_some_iff.mp first
    rw [stripWhile] at here
    have kept := List.head?_dropWhile_not drop text
    rw [← split, here] at kept
    simpa using kept
  · intro c last
    have nonempty : stripWhile drop text ≠ [] := by
      intro empty
      rw [empty] at last
      cases last
    have kept := List.rdropWhile_last_not drop (text.dropWhile drop) nonempty
    have same : (stripWhile drop text).getLast nonempty = c := by
      rw [List.getLast?_eq_some_getLast nonempty] at last
      exact Option.some.inj last
    rw [← same]
    exact Bool.eq_false_of_not_eq_true kept

theorem stripWhile_stripWhile (drop : Char → Bool) (text : Str) :
    stripWhile drop (stripWhile drop text) = stripWhile drop text :=
  stripWhile_eq_self (stripWhile_ends drop text).1 (stripWhile_ends drop text).2

theorem stripWhile_of_none {drop : Char → Bool} {text : Str}
    (kept : ∀ c ∈ text, drop c = false) : stripWhile drop text = text :=
  stripWhile_eq_self (fun c found => kept c (List.mem_of_mem_head? found))
    (fun c found => kept c (List.mem_of_mem_getLast? found))

theorem exists_eq_stripWhile (drop : Char → Bool) (text : Str) :
    ∃ before trailing, text = before ++ (stripWhile drop text ++ trailing) ∧
      (∀ c ∈ before, drop c = true) ∧ ∀ c ∈ trailing, drop c = true := by
  refine ⟨text.takeWhile drop, (text.dropWhile drop).rtakeWhile drop, ?_,
    fun c member => List.mem_takeWhile_imp member, fun c member => List.mem_rtakeWhile_imp member⟩
  rw [stripWhile, List.rdropWhile_append_rtakeWhile, List.takeWhile_append_dropWhile]

theorem rdropWhile_append_of_pos {drop : Char → Bool} {text trailing : Str}
    (dropped : ∀ c ∈ trailing, drop c = true) :
    (text ++ trailing).rdropWhile drop = text.rdropWhile drop := by
  rw [List.rdropWhile, List.reverse_append, List.dropWhile_append_of_pos (by simpa using dropped)]
  rfl

private theorem rdropWhile_append_core {drop : Char → Bool} {core tail : Str} (nonempty : core ≠ [])
    (last : ∀ c ∈ core.getLast?, drop c = false) :
    (core ++ tail).rdropWhile drop = core ++ tail.rdropWhile drop := by
  induction tail using List.reverseRecOn with
  | nil =>
      have kept : core.rdropWhile drop = core := by
        rw [List.rdropWhile_eq_self_iff]
        intro _
        simp [last _ (List.getLast?_eq_some_getLast nonempty)]
      simp [kept]
  | append_singleton tail c ih =>
      rw [← List.append_assoc]
      by_cases dropped : drop c = true
      · rw [List.rdropWhile_concat_pos _ _ _ dropped, List.rdropWhile_concat_pos _ _ _ dropped, ih]
      · rw [List.rdropWhile_concat_neg _ _ _ dropped, List.rdropWhile_concat_neg _ _ _ dropped,
          List.append_assoc]

/-- Stripping stops at a text whose own ends are outside the class. -/
theorem stripWhile_around {drop : Char → Bool} {before core tail : Str} (nonempty : core ≠ [])
    (first : ∀ c ∈ core.head?, drop c = false)
    (last : ∀ c ∈ core.getLast?, drop c = false)
    (dropped : ∀ c ∈ before, drop c = true) :
    stripWhile drop (before ++ (core ++ tail)) = core ++ tail.rdropWhile drop := by
  have left : (before ++ (core ++ tail)).dropWhile drop = core ++ tail := by
    rw [List.dropWhile_append_of_pos dropped]
    cases core with
    | nil => contradiction
    | cons c rest => simp [first c (by simp)]
  rw [stripWhile, left, rdropWhile_append_core nonempty last]

/-- Trailing characters of the class go; the text before them is untouched when
its own ends are outside the class. -/
theorem stripWhile_append {drop : Char → Bool} {text trailing : Str} (nonempty : text ≠ [])
    (first : ∀ c ∈ text.head?, drop c = false)
    (last : ∀ c ∈ text.getLast?, drop c = false)
    (dropped : ∀ c ∈ trailing, drop c = true) :
    stripWhile drop (text ++ trailing) = text := by
  have around : stripWhile drop ([] ++ (text ++ trailing)) = text ++ trailing.rdropWhile drop :=
    stripWhile_around nonempty first last (by simp)
  rwa [List.nil_append, List.rdropWhile_eq_nil_iff.mpr dropped, List.append_nil] at around

theorem stripWhile_eq_nil_iff {drop : Char → Bool} {text : Str} :
    stripWhile drop text = [] ↔ ∀ c ∈ text, drop c = true := by
  constructor
  · intro empty
    obtain ⟨before, trailing, split, beforeDropped, trailingDropped⟩ := exists_eq_stripWhile drop text
    rw [split, empty, List.nil_append]
    exact List.forall_mem_append.mpr ⟨beforeDropped, trailingDropped⟩
  · intro dropped
    rw [stripWhile, List.dropWhile_eq_nil_iff.mpr dropped, List.rdropWhile_nil]

theorem span_exact {keep : Char → Bool} {body rest : Str} (inside : ∀ c ∈ body, keep c = true)
    (boundary : ∀ c ∈ rest.head?, keep c = false) : (body ++ rest).span keep = (body, rest) := by
  have stopTake : rest.takeWhile keep = [] := by
    cases rest with
    | nil => rfl
    | cons c tail => simp [boundary c rfl]
  have stopDrop : rest.dropWhile keep = rest := by
    cases rest with
    | nil => rfl
    | cons c tail => simp [boundary c rfl]
  rw [List.span_eq_takeWhile_dropWhile, List.takeWhile_append_of_pos inside,
    List.dropWhile_append_of_pos inside, stopTake, stopDrop, List.append_nil]

theorem span_eq_iff {keep : Char → Bool} {text body rest : Str} :
    text.span keep = (body, rest) ↔
      text = body ++ rest ∧ (∀ c ∈ body, keep c = true) ∧ ∀ c ∈ rest.head?, keep c = false := by
  constructor
  · intro read
    rw [List.span_eq_takeWhile_dropWhile] at read
    cases read
    refine ⟨List.takeWhile_append_dropWhile.symm, fun c member => List.mem_takeWhile_imp member, ?_⟩
    intro c first
    have stopped := List.head?_dropWhile_not keep text
    rw [Option.mem_def.mp first] at stopped
    simpa using stopped
  · intro ⟨split, inside, boundary⟩
    rw [split]
    exact span_exact inside boundary

/-- Two continuations that start alike and part at their second element tell where the
first part of a list ends. -/
theorem append_left_eq_of_marks {α : Type} {first second x y x' y' : List α} {p q r : α}
    (fresh : q ≠ p) (apart : q ≠ r) (left : first ++ p :: q :: x = second ++ p :: q :: y)
    (right : first ++ p :: r :: x' = second ++ p :: r :: y') : first = second := by
  induction first generalizing second with
  | nil =>
      match second with
      | [] => rfl
      | [_] => exact absurd (List.cons.inj (List.cons.inj left).2).1 fresh
      | _ :: _ :: _ =>
          have viaLeft := (List.cons.inj (List.cons.inj left).2).1
          have viaRight := (List.cons.inj (List.cons.inj right).2).1
          exact absurd (viaLeft.trans viaRight.symm) apart
  | cons c first ih =>
      match second with
      | [] =>
          match first with
          | [] => exact absurd (List.cons.inj (List.cons.inj left).2).1.symm fresh
          | _ :: _ =>
              have viaLeft := (List.cons.inj (List.cons.inj left).2).1
              have viaRight := (List.cons.inj (List.cons.inj right).2).1
              exact absurd (viaLeft.symm.trans viaRight) apart
      | d :: second =>
          obtain ⟨same, left⟩ := List.cons.inj left
          rw [same, ih left (List.cons.inj right).2]

section Joins

variable {c : Char}

theorem join_singleton (separator text : Str) : join separator [text] = text :=
  List.intercalate_singleton

theorem join_cons_cons (separator first next : Str) (texts : List Str) :
    join separator (first :: next :: texts) = first ++ (separator ++ join separator (next :: texts)) := by
  rw [join, join, List.intercalate_cons_cons, List.append_assoc]

theorem forall_mem_intercalate {α : Type*} {property : α → Prop} {separator : List α} {parts : List (List α)}
    (between : ∀ c ∈ separator, property c) (inside : ∀ part ∈ parts, ∀ c ∈ part, property c) :
    ∀ c ∈ separator.intercalate parts, property c := by
  induction parts with
  | nil => exact fun c member => nomatch member
  | cons first parts ih =>
      rw [List.forall_mem_cons] at inside
      cases parts with
      | nil =>
          rw [List.intercalate_singleton]
          exact inside.1
      | cons next parts =>
          rw [List.intercalate_cons_cons, List.forall_mem_append, List.forall_mem_append]
          exact ⟨⟨inside.1, between⟩, ih inside.2⟩

theorem forall_mem_join {property : Char → Prop} {separator : Str} {parts : List Str}
    (between : ∀ c ∈ separator, property c) (inside : ∀ part ∈ parts, ∀ c ∈ part, property c) :
    ∀ c ∈ join separator parts, property c :=
  forall_mem_intercalate between inside

theorem append_separator {first second rest rest' : Str}
    (apart : ∀ more, first ≠ second ++ c :: more ∧ second ≠ first ++ c :: more)
    (same : first ++ c :: rest = second ++ c :: rest') : first = second ∧ rest = rest' := by
  have equal : first = second := by
    rcases List.append_eq_append_iff.mp same with ⟨more, longer, split⟩ | ⟨more, longer, split⟩
    · cases more with
      | nil => rw [longer, List.append_nil]
      | cons d more =>
          cases split
          exact absurd longer (apart more).2
    · cases more with
      | nil => rw [longer, List.append_nil]
      | cons d more =>
          cases split
          exact absurd longer (apart more).1
  rw [equal] at same
  exact ⟨equal, List.cons_injective (List.append_cancel_left same)⟩

/-- Texts that never continue one another past a separator are told apart in a join. -/
theorem join_eq_iff {firsts seconds : List Str} (nonempty : firsts ≠ []) (nonempty' : seconds ≠ [])
    (apart : ∀ first ∈ firsts, ∀ second ∈ seconds, ∀ more,
      first ≠ second ++ c :: more ∧ second ≠ first ++ c :: more) :
    join [c] firsts = join [c] seconds ↔ firsts = seconds := by
  constructor
  · intro same
    induction firsts generalizing seconds with
    | nil => contradiction
    | cons first firsts ih =>
        match seconds, nonempty' with
        | second :: seconds, _ =>
            have here := apart first (by simp) second (by simp)
            match firsts, seconds with
            | [], [] =>
                rw [join_singleton, join_singleton] at same
                rw [same]
            | [], next :: seconds =>
                rw [join_cons_cons, join_singleton] at same
                exact absurd same (here _).1
            | next :: firsts, [] =>
                rw [join_cons_cons, join_singleton] at same
                exact absurd same.symm (here _).2
            | next :: firsts, next' :: seconds =>
                rw [join_cons_cons, join_cons_cons] at same
                obtain ⟨equal, rest⟩ := append_separator here same
                rw [equal, ih (List.cons_ne_nil _ _) (List.cons_ne_nil _ _)
                  (fun a member b member' => apart a (by simp [member]) b (by simp [member'])) rest]
  · intro same
    rw [same]

end Joins

theorem contains_iff {text part : Str} : contains text part = true ↔ part <:+: text := by
  induction text with
  | nil => simp [contains]
  | cons c rest ih =>
      rw [contains, Bool.or_eq_true, ih, startsWith, List.isPrefixOf_iff_prefix, List.infix_cons_iff]

end DongleRescue.Data
