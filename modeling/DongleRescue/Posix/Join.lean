import DongleRescue.Posix.Path

namespace DongleRescue.Posix

open DongleRescue.Data

/-! Joining a relative path to a root, and what the lexical normalization makes of it. -/

/-- `os.path.join` of two paths. -/
def joinPath (first second : Str) : Str :=
  if isAbsolute second then second
  else if first = [] ∨ endsWith first "/" = true then first ++ second
  else first ++ '/' :: second

/-- An absolute path that normalization leaves alone. -/
def NormalRoot (root : Str) : Prop := isAbsolute root = true ∧ normpath root = root

instance (root : Str) : Decidable (NormalRoot root) := inferInstanceAs (Decidable (_ ∧ _))

/-- Names lead on from the root, and none of them leads back. -/
def StrictlyBelow (root path : Str) : Prop :=
  ∃ location : Location, location ≠ [] ∧ (∀ name ∈ location, CleanName name) ∧
    path = joinPath root (join ['/'] location)

section Stack

variable {absolute : Bool} {location stack : List Str} {name : Str}

theorem normStep_blank (stack : List Str) : normStep absolute stack [] = stack := if_pos (.inl rfl)

/-- An absolute path never keeps a parent reference. -/
theorem normStep_clean (plain : '/' ∉ name) (clean : ∀ kept ∈ stack, CleanName kept) :
    ∀ kept ∈ normStep true stack name, CleanName kept := by
  rw [normStep]
  split
  · exact clean
  · rename_i visible
    split
    · rename_i pushed
      have notUp : name ≠ ['.', '.'] := by
        rcases pushed with notUp | ⟨relative, _⟩ | above
        · exact notUp
        · cases relative
        · exact absurd rfl (clean _ (List.mem_of_mem_head? above)).2.2.1
      rw [not_or] at visible
      exact List.forall_mem_cons.mpr ⟨⟨visible.1, visible.2, notUp, plain⟩, clean⟩
    · exact fun kept member => clean kept (List.mem_of_mem_tail member)

theorem foldl_normStep_clean_of_absolute (plain : ∀ name ∈ location, '/' ∉ name)
    (clean : ∀ kept ∈ stack, CleanName kept) :
    ∀ kept ∈ location.foldl (normStep true) stack, CleanName kept := by
  induction location generalizing stack with
  | nil => exact clean
  | cons name location ih =>
      exact ih (fun later member => plain later (by simp [member])) (normStep_clean (plain name (by simp)) clean)

theorem mem_foldl_normStep (member : name ∈ location.foldl (normStep absolute) stack) :
    name ∈ location ∨ name ∈ stack := by
  induction location generalizing stack with
  | nil => exact .inr member
  | cons first location ih =>
      rcases ih member with later | kept
      · exact .inl (List.mem_cons_of_mem first later)
      · rw [normStep] at kept
        split at kept
        · exact .inr kept
        · split at kept
          · rcases List.mem_cons.mp kept with same | below
            · exact .inl (same ▸ List.mem_cons_self)
            · exact .inr below
          · exact .inr (List.mem_of_mem_tail kept)

/-- Normalization adds nothing but slashes and the dot of an empty path. -/
theorem mem_of_mem_normpath {path : Str} {c : Char} (member : c ∈ normpath path) :
    c = '/' ∨ c = '.' ∨ c ∈ path := by
  have dot : c ∈ (".": String).toList → c = '/' ∨ c = '.' ∨ c ∈ path := by
    intro only
    exact .inr (.inl (List.mem_singleton.mp only))
  have body : ∀ initial, c ∈ List.replicate initial '/' ++ join ['/']
      ((names path).foldl (normStep (decide (initial ≠ 0))) []).reverse → c = '/' ∨ c = '.' ∨ c ∈ path := by
    intro initial inBody
    rcases List.mem_append.mp inBody with slash | named
    · exact .inl (List.eq_of_mem_replicate slash)
    · rcases mem_join named with slash | ⟨name, kept, found⟩
      · exact .inl slash
      · rcases mem_foldl_normStep (List.mem_reverse.mp kept) with inNames | none
        · exact .inr (.inr ((infix_of_mem_names inNames).subset found))
        · cases none
  rw [normpath] at member
  split at member
  · exact dot member
  · dsimp only at member
    generalize (if (startsWith path "//" && !startsWith path "///") = true then 2
      else if startsWith path "/" = true then 1 else 0) = initial at member
    split at member
    · exact dot member
    · exact body initial member

end Stack

section Slashes

variable {count : Nat} {rest : Str} {location : Location}

theorem names_slashes (count : Nat) (rest : Str) :
    names (List.replicate count '/' ++ rest) = List.replicate count [] ++ names rest := by
  induction count with
  | zero => rfl
  | succ count ih =>
      have split := names_append_slash [] (List.replicate count '/' ++ rest)
      rw [names_of_no_slash List.not_mem_nil, ih] at split
      exact split

/-- Up to two leading slashes are kept as they are. -/
theorem normpath_slashes (few : count ≤ 2) (start : ∀ c ∈ rest.head?, c ≠ '/')
    (nonempty : List.replicate count '/' ++ rest ≠ [])
    (kept : List.replicate count '/' ++
      join ['/'] ((names rest).foldl (normStep (decide (count ≠ 0))) []).reverse ≠ []) :
    normpath (List.replicate count '/' ++ rest) = List.replicate count '/' ++
      join ['/'] ((names rest).foldl (normStep (decide (count ≠ 0))) []).reverse := by
  have skipped : ∀ more : List Str, (List.replicate count [] ++ more).foldl
      (normStep (decide (count ≠ 0))) [] = more.foldl (normStep (decide (count ≠ 0))) [] := by
    intro more
    have blank : (List.replicate count []).foldl (normStep (decide (count ≠ 0))) [] = [] := by
      clear few nonempty kept
      generalize decide (count ≠ 0) = absolute
      induction count with
      | zero => rfl
      | succ count ih => rw [List.replicate_succ, List.foldl_cons, normStep_blank, ih]
    rw [List.foldl_append, blank]
  have initial : (if startsWith (List.replicate count '/' ++ rest) "//" &&
        !startsWith (List.replicate count '/' ++ rest) "///" then 2
      else if startsWith (List.replicate count '/' ++ rest) "/" then 1 else 0) = count := by
    have counts : count = 0 ∨ count = 1 ∨ count = 2 := by omega
    clear nonempty kept skipped
    cases rest with
    | nil =>
        rcases counts with rfl | rfl | rfl
        · rfl
        · rfl
        · rfl
    | cons c rest =>
        have other : ('/' == c) = false := beq_false_of_ne (Ne.symm (start c rfl))
        rcases counts with rfl | rfl | rfl
        all_goals simp [startsWith, List.isPrefixOf, other]
  rw [normpath, if_neg nonempty]
  simp only [initial, names_slashes, skipped]
  exact if_neg kept

theorem head_join (clean : ∀ name ∈ location, CleanName name) :
    ∀ c ∈ (join ['/'] location).head?, c ≠ '/' := by
  cases location with
  | nil => exact fun c first => by cases first
  | cons name rest =>
      obtain ⟨nonempty, _, _, plain⟩ := clean name (by simp)
      obtain ⟨d, tail, split⟩ := List.exists_cons_of_ne_nil nonempty
      have first : (join ['/'] (name :: rest)).head? = some d := by
        cases rest with
        | nil => simp [join, split]
        | cons next rest => simp [join_cons_cons, split]
      intro c found slash
      rw [first] at found
      cases found
      rw [slash] at split
      exact plain (by simp [split])

theorem join_ne_nil (nonempty : location ≠ []) (clean : ∀ name ∈ location, CleanName name) :
    join ['/'] location ≠ [] := by
  intro empty
  have split := names_join nonempty fun name member => (clean name member).2.2.2
  rw [empty] at split
  have blank : ([] : Str) ∈ location := split ▸ List.mem_singleton_self _
  exact (clean [] blank).1 rfl

/-- Clean names are their own normalization. -/
theorem normpath_clean (few : count ≤ 2) (nonempty : location ≠ [])
    (clean : ∀ name ∈ location, CleanName name) :
    normpath (List.replicate count '/' ++ join ['/'] location) =
      List.replicate count '/' ++ join ['/'] location := by
  have plain : ∀ name ∈ location, '/' ∉ name := fun name member => (clean name member).2.2.2
  have kept : List.replicate count '/' ++ join ['/'] location ≠ [] := by
    simp [join_ne_nil nonempty clean]
  have stack : ((names (join ['/'] location)).foldl (normStep (decide (count ≠ 0))) []).reverse = location := by
    rw [names_join nonempty plain, foldl_normStep_clean clean, List.append_nil, List.reverse_reverse]
  rw [normpath_slashes few (head_join clean) kept (by rw [stack]; exact kept), stack]

end Slashes

section Roots

variable {root : Str} {location : Location}

/-- A normalized absolute path is one or two slashes and clean names. -/
theorem NormalRoot.shape (normal : NormalRoot root) :
    ∃ count location, (count = 1 ∨ count = 2) ∧ (∀ name ∈ location, CleanName name) ∧
      root = List.replicate count '/' ++ join ['/'] location := by
  obtain ⟨absolute, fixed⟩ := normal
  have nonempty : root ≠ [] := by
    intro empty
    rw [empty] at absolute
    cases absolute
  rw [normpath, if_neg nonempty] at fixed
  have slash : startsWith root "/" = true := absolute
  simp only [slash, if_true] at fixed
  have clean : ∀ kept ∈ ((names root).foldl (normStep true) []).reverse, CleanName kept := by
    intro kept member
    have slashFree : ∀ name ∈ names root, '/' ∉ name := fun name => slash_not_mem_names
    exact foldl_normStep_clean_of_absolute slashFree (List.forall_mem_nil _) kept
      (List.mem_reverse.mp member)
  split at fixed
  · rw [if_neg (by simp)] at fixed
    exact ⟨2, _, .inr rfl, clean, fixed.symm⟩
  · rw [if_neg (by simp)] at fixed
    exact ⟨1, _, .inl rfl, clean, fixed.symm⟩

/-- A path that ends in a name does not end in a slash. -/
theorem endsWith_slash_join (nonempty : location ≠ []) (clean : ∀ name ∈ location, CleanName name)
    (start : Str) : endsWith (start ++ join ['/'] location) "/" = false := by
  rw [Bool.eq_false_iff]
  intro ends
  obtain ⟨before, split⟩ := List.isSuffixOf_iff_suffix.mp ends
  obtain ⟨lastNonempty, _, _, plain⟩ := clean _ (List.getLast_mem nonempty)
  have shape : ∃ front, join ['/'] location = front ++ location.getLast nonempty := by
    by_cases single : location.dropLast = []
    · have whole := List.dropLast_append_getLast nonempty
      rw [single, List.nil_append] at whole
      refine ⟨[], ?_⟩
      rw [List.nil_append]
      exact (congrArg (join ['/']) whole.symm).trans (List.intercalate_singleton)
    · have whole := join_append single (List.cons_ne_nil (location.getLast nonempty) [])
      rw [List.dropLast_append_getLast nonempty] at whole
      refine ⟨join ['/'] location.dropLast ++ ['/'], ?_⟩
      rw [whole, join_singleton, List.append_assoc]
      rfl
  obtain ⟨front, same⟩ := shape
  have last := congrArg List.getLast? split
  have slash : ("/" : String).toList = ['/'] := rfl
  rw [same, ← List.append_assoc, List.getLast?_append_of_ne_nil _ lastNonempty, slash,
    List.getLast?_concat] at last
  exact plain (List.mem_of_mem_getLast? last.symm)

theorem isAbsolute_join (clean : ∀ name ∈ location, CleanName name) : isAbsolute (join ['/'] location) = false := by
  have start := head_join clean
  cases text : join ['/'] location with
  | nil => rfl
  | cons c rest =>
      rw [text] at start
      have other : ('/' == c) = false := beq_false_of_ne (Ne.symm (start c rfl))
      simp [isAbsolute, startsWith, List.isPrefixOf, other]

/-- Clean names joined to a normalized root stay below it. -/
theorem normpath_joinPath (normal : NormalRoot root) (nonempty : location ≠ [])
    (clean : ∀ name ∈ location, CleanName name) :
    normpath (joinPath root (join ['/'] location)) = joinPath root (join ['/'] location) := by
  obtain ⟨count, parents, counts, parentsClean, rfl⟩ := normal.shape
  have few : count ≤ 2 := by omega
  rw [joinPath, isAbsolute_join clean, if_neg (by decide)]
  by_cases bare : parents = []
  · have slashes : List.replicate count '/' ++ join ['/'] parents = [] ∨
        endsWith (List.replicate count '/' ++ join ['/'] parents) "/" = true := by
      rw [bare]
      rcases counts with rfl | rfl
      · exact .inr rfl
      · exact .inr rfl
    have root : List.replicate count '/' ++ join ['/'] parents = List.replicate count '/' := by
      rw [bare]
      exact List.append_nil _
    rw [if_pos slashes, root]
    exact normpath_clean few nonempty clean
  · have open_ : ¬ (List.replicate count '/' ++ join ['/'] parents = [] ∨
        endsWith (List.replicate count '/' ++ join ['/'] parents) "/" = true) := by
      rw [endsWith_slash_join bare parentsClean]
      simp [join_ne_nil bare parentsClean]
    have path : List.replicate count '/' ++ join ['/'] parents ++ '/' :: join ['/'] location =
        List.replicate count '/' ++ join ['/'] (parents ++ location) := by
      rw [join_append bare nonempty, List.append_assoc]
    rw [if_neg open_, path]
    exact normpath_clean few (by simp [bare]) (List.forall_mem_append.mpr ⟨parentsClean, clean⟩)

end Roots

end DongleRescue.Posix
