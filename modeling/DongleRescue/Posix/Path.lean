import DongleRescue.Data.Text

namespace DongleRescue.Posix

open DongleRescue.Data

/-! Path names as text, the locations they denote as component lists, and the
lexical normalization of the standard library. -/

abbrev Location := List Str

def CleanName (name : Str) : Prop :=
  name ≠ [] ∧ name ≠ ['.'] ∧ name ≠ ['.', '.'] ∧ '/' ∉ name

instance (name : Str) : Decidable (CleanName name) :=
  inferInstanceAs (Decidable (_ ∧ _ ∧ _ ∧ _))

def names (path : Str) : List Str := path.splitOn '/'

def isAbsolute (path : Str) : Bool := startsWith path "/"

def render (location : Location) : Str := '/' :: join ['/'] location

def normStep (absolute : Bool) (stack : List Str) (name : Str) : List Str :=
  if name = [] ∨ name = ['.'] then stack
  else if name ≠ ['.', '.'] ∨ (absolute = false ∧ stack = []) ∨
      stack.head? = some ['.', '.'] then
    name :: stack
  else stack.tail

/-- `os.path.normpath`.  Exactly two leading slashes are kept. -/
def normpath (path : Str) : Str :=
  if path = [] then "."
  else
    let initial :=
      if startsWith path "//" && !startsWith path "///" then 2
      else if startsWith path "/" then 1 else 0
    let stack := (names path).foldl (normStep (initial ≠ 0)) []
    let body := List.replicate initial '/' ++ join ['/'] stack.reverse
    if body = [] then "." else body

theorem names_ne_nil (path : Str) : names path ≠ [] := List.splitOn_ne_nil '/' path

theorem names_of_no_slash {name : Str} (plain : '/' ∉ name) : names name = [name] :=
  List.splitOn_eq_singleton plain

theorem names_append_slash (first rest : Str) :
    names (first ++ '/' :: rest) = names first ++ names rest :=
  List.splitOn_append_cons_self first rest

theorem slash_not_mem_names {path name : Str} (member : name ∈ names path) : '/' ∉ name := by
  induction path generalizing name with
  | nil =>
      have empty : name = [] := by simpa [names] using member
      simp [empty]
  | cons c rest ih =>
      rw [names, List.splitOn_cons_eq_if_modifyHead] at member
      by_cases slash : c = '/'
      · rw [if_pos (by simp [slash])] at member
        rcases List.mem_cons.mp member with empty | later
        · simp [empty]
        · exact ih later
      · rw [if_neg (by simp [slash])] at member
        obtain ⟨head, tail, split⟩ := List.exists_cons_of_ne_nil (names_ne_nil rest)
        have split' : List.splitOn '/' rest = head :: tail := split
        rw [split', List.modifyHead_cons] at member
        rcases List.mem_cons.mp member with extended | later
        · subst name
          have headPlain : '/' ∉ head := ih (by simp [split])
          simp [headPlain, Ne.symm slash]
        · exact ih (by simp [split, later])

theorem names_join {location : Location} (nonempty : location ≠ [])
    (plain : ∀ name ∈ location, '/' ∉ name) : names (join ['/'] location) = location :=
  List.splitOn_intercalate '/' plain nonempty

theorem names_render {location : Location} (nonempty : location ≠ [])
    (plain : ∀ name ∈ location, '/' ∉ name) : names (render location) = [] :: location := by
  have split := names_append_slash [] (join ['/'] location)
  rw [names_join nonempty plain, names_of_no_slash (List.not_mem_nil)] at split
  exact split

theorem join_cons_cons (first second : Str) (rest : Location) :
    join ['/'] (first :: second :: rest) = first ++ '/' :: join ['/'] (second :: rest) := by
  simp [join, List.intercalate]

theorem join_append {first second : Location} (left : first ≠ []) (right : second ≠ []) :
    join ['/'] (first ++ second) = join ['/'] first ++ '/' :: join ['/'] second := by
  induction first with
  | nil => contradiction
  | cons name rest ih =>
      cases rest with
      | nil =>
          obtain ⟨next, tail, rfl⟩ := List.exists_cons_of_ne_nil right
          have single : join ['/'] [name] = name := by simp [join]
          rw [single]
          exact join_cons_cons name next tail
      | cons next tail =>
          have tailJoin := ih (by simp)
          simp only [List.cons_append] at tailJoin ⊢
          rw [join_cons_cons, join_cons_cons, tailJoin]
          simp

theorem render_append {first second : Location} (left : first ≠ []) (right : second ≠ []) :
    render (first ++ second) = render first ++ '/' :: join ['/'] second := by
  simp [render, join_append left right]

theorem render_prefix {base : Str} {location : Location} (nonempty : base ≠ [])
    (clean : ∀ name ∈ location, CleanName name)
    (start : startsWith (render location) (base ++ "/") = true) :
    ∃ first second, location = first ++ second ∧ first ≠ [] ∧ second ≠ [] ∧
      base = render first := by
  obtain ⟨rest, same⟩ := startsWith_iff.mp start
  have split : names (render location) = names base ++ names rest := by
    rw [same, List.append_assoc]
    exact names_append_slash base rest
  have plain : ∀ name ∈ location, '/' ∉ name := fun name member => (clean name member).2.2.2
  have locationNonempty : location ≠ [] := by
    intro empty
    subst location
    have short := congrArg List.length same
    have positive := List.length_pos_of_ne_nil nonempty
    simp [render, join] at short
    omega
  rw [names_render locationNonempty plain] at split
  obtain ⟨head, first, baseNames⟩ := List.exists_cons_of_ne_nil (names_ne_nil base)
  rw [baseNames, List.cons_append, List.cons.injEq] at split
  obtain ⟨headEmpty, rfl⟩ := split
  have rejoin : base = join ['/'] (names base) := (List.intercalate_splitOn '/').symm
  have firstNonempty : first ≠ [] := by
    intro empty
    rw [baseNames, ← headEmpty, empty] at rejoin
    exact nonempty (by simpa [join] using rejoin)
  refine ⟨first, names rest, rfl, firstNonempty, names_ne_nil rest, ?_⟩
  obtain ⟨next, tail, rfl⟩ := List.exists_cons_of_ne_nil firstNonempty
  rw [rejoin, baseNames, ← headEmpty, join_cons_cons]
  rfl

def isBlank (name : Str) : Bool := decide (name = []) || decide (name = ['.'])

/-- Without parent references, normalization only drops blank components. -/
theorem foldl_normStep_noDots {absolute : Bool} {location stack : List Str}
    (noDots : ∀ name ∈ location, name ≠ ['.', '.']) :
    location.foldl (normStep absolute) stack =
      (location.filter fun name => !isBlank name).reverse ++ stack := by
  induction location generalizing stack with
  | nil => rfl
  | cons name rest ih =>
      have tail : ∀ stack, rest.foldl (normStep absolute) stack =
          (rest.filter fun name => !isBlank name).reverse ++ stack :=
        fun stack => ih fun later member => noDots later (by simp [member])
      by_cases blank : name = [] ∨ name = ['.']
      · have skipped : normStep absolute stack name = stack := if_pos blank
        have dropped : isBlank name = true := by simpa [isBlank] using blank
        rw [List.foldl_cons, skipped, tail, List.filter_cons_of_neg (by simp [dropped])]
      · have pushed : normStep absolute stack name = name :: stack := by
          rw [normStep, if_neg blank, if_pos (Or.inl (noDots name (by simp)))]
        have kept : isBlank name = false := by simpa [isBlank] using blank
        rw [List.foldl_cons, pushed, tail, List.filter_cons_of_pos (by simp [kept])]
        simp

theorem foldl_normStep_clean {absolute : Bool} {location stack : List Str}
    (clean : ∀ name ∈ location, CleanName name) :
    location.foldl (normStep absolute) stack = location.reverse ++ stack := by
  have kept : location.filter (fun name => !isBlank name) = location := by
    rw [List.filter_eq_self]
    intro name member
    simp [isBlank, (clean name member).1, (clean name member).2.1]
  rw [foldl_normStep_noDots fun name member => (clean name member).2.2.1, kept]

def keptNames (path : Str) : List Str := (names path).filter fun name => !isBlank name

theorem keptNames_cons {c : Char} {rest : Str} (slash : c ≠ '/') (dot : c ≠ '.') :
    ∃ tail later, keptNames (c :: rest) = (c :: tail) :: later := by
  obtain ⟨head, others, split⟩ := List.exists_cons_of_ne_nil (names_ne_nil rest)
  have split' : List.splitOn '/' rest = head :: others := split
  have first : names (c :: rest) = (c :: head) :: others := by
    rw [names, List.splitOn_cons_eq_if_modifyHead, if_neg (by simp [slash]), split',
      List.modifyHead_cons]
  have kept : isBlank (c :: head) = false := by simp [isBlank, dot]
  refine ⟨head, others.filter fun name => !isBlank name, ?_⟩
  rw [keptNames, first, List.filter_cons_of_pos (by simp [kept])]

theorem infix_join {location : Location} {name : Str} (member : name ∈ location) :
    name <:+: join ['/'] location := by
  induction location with
  | nil => cases member
  | cons first rest ih =>
      cases rest with
      | nil =>
          rw [List.mem_singleton.mp member]
          simp [join]
      | cons second tail =>
          rw [join_cons_cons]
          rcases List.mem_cons.mp member with same | later
          · rw [same]
            exact (List.prefix_append first _).isInfix
          · have suffix := List.suffix_append (first ++ ['/']) (join ['/'] (second :: tail))
            rw [List.append_assoc, List.singleton_append] at suffix
            exact (ih later).trans suffix.isInfix

theorem mem_join {location : Location} {c : Char} (member : c ∈ join ['/'] location) :
    c = '/' ∨ ∃ name ∈ location, c ∈ name := by
  induction location with
  | nil => simp [join] at member
  | cons first rest ih =>
      cases rest with
      | nil => exact .inr ⟨first, by simp, by simpa [join] using member⟩
      | cons second tail =>
          rw [join_cons_cons, List.mem_append, List.mem_cons] at member
          rcases member with inFirst | slash | later
          · exact .inr ⟨first, by simp, inFirst⟩
          · exact .inl slash
          · rcases ih later with slash | ⟨name, inTail, found⟩
            · exact .inl slash
            · exact .inr ⟨name, List.mem_cons_of_mem first inTail, found⟩

theorem infix_of_mem_names {path name : Str} (member : name ∈ names path) : name <:+: path := by
  have rejoin : join ['/'] (names path) = path := List.intercalate_splitOn '/'
  exact rejoin ▸ infix_join member

/-- A relative path that starts inside a name and never goes up. -/
structure Descends (path : Str) : Prop where
  nonempty : path ≠ []
  head : ∀ c ∈ path.head?, c ≠ '/' ∧ c ≠ '.'
  noDots : ∀ name ∈ names path, name ≠ ['.', '.']

namespace Descends

variable {path : Str} (descends : Descends path)
include descends

theorem keptNames_eq : ∃ c tail later, keptNames path = (c :: tail) :: later ∧ c ≠ '/' ∧ c ≠ '.' := by
  obtain ⟨c, rest, same⟩ := List.exists_cons_of_ne_nil descends.nonempty
  obtain ⟨slash, dot⟩ := descends.head c (by simp [same])
  obtain ⟨tail, later, kept⟩ := keptNames_cons slash dot
  exact ⟨c, tail, later, same ▸ kept, slash, dot⟩

theorem join_keptNames : ∃ c more, join ['/'] (keptNames path) = c :: more ∧ c ≠ '/' ∧ c ≠ '.' := by
  obtain ⟨c, tail, later, kept, slash, dot⟩ := descends.keptNames_eq
  rw [kept]
  cases later with
  | nil => exact ⟨c, tail, by simp [join], slash, dot⟩
  | cons second others => exact ⟨c, _, by rw [join_cons_cons]; rfl, slash, dot⟩

theorem normpath_eq : normpath path = join ['/'] (keptNames path) := by
  obtain ⟨c, rest, same⟩ := List.exists_cons_of_ne_nil descends.nonempty
  obtain ⟨slash, _⟩ := descends.head c (by simp [same])
  obtain ⟨_, _, joined, _⟩ := descends.join_keptNames
  have oneSlash : startsWith path "/" = false := by
    simp [same, startsWith, List.isPrefixOf, Ne.symm slash]
  have twoSlashes : startsWith path "//" = false := by
    simp [same, startsWith, List.isPrefixOf, Ne.symm slash]
  have stack : (names path).foldl (normStep (decide (0 ≠ 0))) [] = _ :=
    foldl_normStep_noDots descends.noDots
  rw [normpath, if_neg descends.nonempty, twoSlashes, oneSlash]
  simp only [Bool.false_and, Bool.false_eq_true, if_false, stack, List.append_nil,
    List.reverse_reverse, List.replicate_zero, List.nil_append]
  have kept : join ['/'] (keptNames path) ≠ [] := by simp [joined]
  exact if_neg kept

theorem names_normpath : names (normpath path) = keptNames path := by
  obtain ⟨_, _, _, kept, _⟩ := descends.keptNames_eq
  rw [descends.normpath_eq]
  exact names_join (by simp [kept]) fun name member =>
    slash_not_mem_names (List.mem_of_mem_filter member)

theorem cleanName {name : Str} (member : name ∈ keptNames path) : CleanName name := by
  obtain ⟨inNames, kept⟩ := List.mem_filter.mp member
  have notBlank : name ≠ [] ∧ name ≠ ['.'] := by simpa [isBlank] using kept
  exact ⟨notBlank.1, notBlank.2, descends.noDots name inNames, slash_not_mem_names inNames⟩

theorem mem_normpath {c : Char} (member : c ∈ normpath path) : c = '/' ∨ c ∈ path := by
  rw [descends.normpath_eq] at member
  rcases mem_join member with slash | ⟨name, inKept, found⟩
  · exact .inl slash
  · exact .inr ((infix_of_mem_names (List.mem_of_mem_filter inKept)).subset found)

end Descends

theorem normpath_render {location : Location} (nonempty : location ≠ [])
    (clean : ∀ name ∈ location, CleanName name) :
    normpath (render location) = render location := by
  obtain ⟨name, rest, rfl⟩ := List.exists_cons_of_ne_nil nonempty
  obtain ⟨c, tail, rfl⟩ := List.exists_cons_of_ne_nil (clean name (by simp)).1
  have notSlash : c ≠ '/' := by
    intro slash
    exact (clean (c :: tail) (by simp)).2.2.2 (by simp [slash])
  obtain ⟨more, shape⟩ : ∃ more, render ((c :: tail) :: rest) = '/' :: c :: more := by
    cases rest with
    | nil => exact ⟨tail, by simp [render, join]⟩
    | cons next rest => exact ⟨_, by rw [render, join_cons_cons]; rfl⟩
  have twoSlashes : startsWith (render ((c :: tail) :: rest)) "//" = false := by
    rw [shape]
    simp [startsWith, List.isPrefixOf, Ne.symm notSlash]
  have oneSlash : startsWith (render ((c :: tail) :: rest)) "/" = true := by
    rw [shape]
    rfl
  have split := names_render nonempty (fun name member => (clean name member).2.2.2)
  have stack : (names (render ((c :: tail) :: rest))).foldl (normStep (decide (1 ≠ 0))) [] =
      ((c :: tail) :: rest).reverse := by
    rw [split, List.foldl_cons]
    have skipped : normStep (decide (1 ≠ 0)) [] [] = [] := rfl
    rw [skipped, foldl_normStep_clean clean, List.append_nil]
  rw [normpath, if_neg (by simp [render]), twoSlashes, oneSlash]
  simp only [Bool.false_and, Bool.false_eq_true, if_false, if_true, stack, List.reverse_reverse]
  exact if_neg (by simp)

end DongleRescue.Posix
