import DongleRescue.Posix.Path

namespace DongleRescue.Posix

open DongleRescue.Data

/-! File trees with symbolic links, and the kernel's path resolution, which bounds
the number of links it follows and needs every component to exist.  The relation
`Walks` is its meaning without the bound; it counts the links followed. -/

inductive Node where
  | dir
  | file (content : Str)
  | symlink (target : Str)
deriving DecidableEq

abbrev Nodes := List (Location × Node)

def lstat (nodes : Nodes) (location : Location) : Option Node :=
  if location = [] then some .dir else (nodes.find? fun entry => entry.1 = location).map Prod.snd

def IsLink (nodes : Nodes) (location : Location) : Prop :=
  ∃ target, lstat nodes location = some (.symlink target)

/-- A symlink-free location: clean names, and no link on the way to it. -/
def Canonical (nodes : Nodes) (location : Location) : Prop :=
  (∀ name ∈ location, CleanName name) ∧ ∀ upto, upto <+: location → ¬ IsLink nodes upto

theorem Canonical.root (nodes : Nodes) : Canonical nodes [] := by
  refine ⟨by simp, fun upto start => ?_⟩
  rw [List.prefix_nil.mp start]
  intro ⟨target, link⟩
  simp [lstat] at link

/-- A file system: its tree, the working directory, and the number of links the
kernel follows before it reports a loop. -/
structure FileSystem where
  nodes : Nodes
  cwd : Location
  maxSymlinks : Nat
  cwdCanonical : Canonical nodes cwd

def linkBase (location : Location) (target : Str) : Location :=
  if isAbsolute target then [] else location

private def walkWith (nodes : Nodes) (follow : Location → List Str → Option Location) :
    Location → List Str → Option Location
  | location, [] => some location
  | location, name :: rest =>
      if lstat nodes location ≠ some .dir then none
      else if name = [] ∨ name = ['.'] then walkWith nodes follow location rest
      else if name = ['.', '.'] then walkWith nodes follow location.dropLast rest
      else match lstat nodes (location ++ [name]) with
        | none => none
        | some (.symlink target) => follow (linkBase location target) (names target ++ rest)
        | some _ => walkWith nodes follow (location ++ [name]) rest

def walk (nodes : Nodes) : Nat → Location → List Str → Option Location
  | 0 => walkWith nodes fun _ _ => none
  | budget + 1 => walkWith nodes (walk nodes budget)

namespace FileSystem

def start (fs : FileSystem) (path : Str) : Location :=
  if isAbsolute path then [] else fs.cwd

def stat (fs : FileSystem) (path : Str) : Option Node :=
  if path = [] ∨ path.contains (Char.ofNat 0) then none
  else (walk fs.nodes fs.maxSymlinks (fs.start path) (names path)).bind (lstat fs.nodes)

def exists_ (fs : FileSystem) (path : Str) : Bool := (fs.stat path).isSome

end FileSystem

/-- `Walks nodes location names found links`: the components lead from
`location` to `found`, following `links` symbolic links on the way. -/
inductive Walks (nodes : Nodes) : Location → List Str → Location → Nat → Prop where
  | done : Walks nodes location [] location 0
  | stay (blank : name = [] ∨ name = ['.']) (tail : Walks nodes location rest found links) :
      Walks nodes location (name :: rest) found links
  | up (dots : name = ['.', '.']) (tail : Walks nodes location.dropLast rest found links) :
      Walks nodes location (name :: rest) found links
  | enter (notBlank : ¬ (name = [] ∨ name = ['.'])) (notDots : name ≠ ['.', '.'])
      (notLink : ¬ IsLink nodes (location ++ [name]))
      (tail : Walks nodes (location ++ [name]) rest found links) :
      Walks nodes location (name :: rest) found links
  | follow (notBlank : ¬ (name = [] ∨ name = ['.'])) (notDots : name ≠ ['.', '.'])
      (link : lstat nodes (location ++ [name]) = some (.symlink target))
      (head : Walks nodes (linkBase location target) (names target) middle links)
      (tail : Walks nodes middle rest found later) :
      Walks nodes location (name :: rest) found (links + later + 1)

namespace Walks

variable {nodes : Nodes} {location found other : Location} {path rest : List Str} {links count : Nat}

theorem deterministic (left : Walks nodes location path found links)
    (right : Walks nodes location path other count) : found = other ∧ links = count := by
  induction left generalizing other count with
  | done => cases right; exact ⟨rfl, rfl⟩
  | stay blank tail ih =>
      cases right with
      | stay _ tail' => exact ih tail'
      | up dots _ => rcases blank with blank | blank <;> simp [blank] at dots
      | enter notBlank _ _ _ => exact absurd blank notBlank
      | follow notBlank _ _ _ _ => exact absurd blank notBlank
  | up dots tail ih =>
      cases right with
      | stay blank _ => rcases blank with blank | blank <;> simp [blank] at dots
      | up _ tail' => exact ih tail'
      | enter _ notDots _ _ => exact absurd dots notDots
      | follow _ notDots _ _ _ => exact absurd dots notDots
  | enter notBlank notDots notLink tail ih =>
      cases right with
      | stay blank _ => exact absurd blank notBlank
      | up dots _ => exact absurd dots notDots
      | enter _ _ _ tail' => exact ih tail'
      | follow _ _ link _ _ => exact absurd ⟨_, link⟩ notLink
  | follow notBlank notDots link head tail headIH tailIH =>
      cases right with
      | stay blank _ => exact absurd blank notBlank
      | up dots _ => exact absurd dots notDots
      | enter _ _ notLink _ => exact absurd ⟨_, link⟩ notLink
      | follow _ _ link' head' tail' =>
          rw [link] at link'
          cases link'
          obtain ⟨rfl, rfl⟩ := headIH head'
          obtain ⟨rfl, rfl⟩ := tailIH tail'
          exact ⟨rfl, rfl⟩

theorem split {first : List Str} (walks : Walks nodes location (first ++ rest) found links) :
    ∃ middle before after, Walks nodes location first middle before ∧
      Walks nodes middle rest found after ∧ links = before + after := by
  induction first generalizing location links with
  | nil => exact ⟨location, 0, links, .done, walks, by omega⟩
  | cons name first ih =>
      cases walks with
      | stay blank tail =>
          obtain ⟨middle, before, after, head, last, sum⟩ := ih tail
          exact ⟨middle, before, after, .stay blank head, last, sum⟩
      | up dots tail =>
          obtain ⟨middle, before, after, head, last, sum⟩ := ih tail
          exact ⟨middle, before, after, .up dots head, last, sum⟩
      | enter notBlank notDots notLink tail =>
          obtain ⟨middle, before, after, head, last, sum⟩ := ih tail
          exact ⟨middle, before, after, .enter notBlank notDots notLink head, last, sum⟩
      | follow notBlank notDots link target tail =>
          obtain ⟨middle, before, after, head, last, sum⟩ := ih tail
          exact ⟨middle, _, after, .follow notBlank notDots link target head, last, by omega⟩

theorem canonical (walks : Walks nodes location path found links)
    (plain : ∀ name ∈ path, '/' ∉ name) (before : Canonical nodes location) :
    Canonical nodes found := by
  induction walks with
  | done => exact before
  | stay _ _ ih => exact ih (fun name member => plain name (by simp [member])) before
  | up _ _ ih =>
      refine ih (fun name member => plain name (by simp [member])) ⟨?_, ?_⟩
      · exact fun name member => before.1 name (List.dropLast_subset _ member)
      · exact fun upto start => before.2 upto (start.trans (List.dropLast_prefix _))
  | @enter name location rest _ _ notBlank notDots notLink _ ih =>
      refine ih (fun name member => plain name (by simp [member])) ⟨?_, ?_⟩
      · intro other member
        rcases List.mem_append.mp member with earlier | last
        · exact before.1 other earlier
        · have same := List.mem_singleton.mp last
          subst other
          exact ⟨fun empty => notBlank (.inl empty), fun dot => notBlank (.inr dot), notDots,
            plain name (by simp)⟩
      · intro upto start
        rcases List.prefix_concat_iff.mp start with whole | earlier
        · rw [whole]
          exact notLink
        · exact before.2 upto earlier
  | @follow name location target _ _ rest _ _ _ _ _ _ _ headIH tailIH =>
      refine tailIH (fun name member => plain name (by simp [member])) ?_
      refine headIH (fun name member => slash_not_mem_names member) ?_
      rw [linkBase]
      split
      · refine ⟨by simp, fun upto start => ?_⟩
        rw [List.prefix_nil.mp start]
        intro link
        obtain ⟨target, link⟩ := link
        simp [lstat] at link
      · exact before

end Walks

private theorem walkWith_walks {nodes : Nodes} {follow : Location → List Str → Option Location}
    {location found : Location} {path : List Str}
    (followed : ∀ location path, follow location path = some found →
      ∃ links, Walks nodes location path found links)
    (walked : walkWith nodes follow location path = some found) :
    ∃ links, Walks nodes location path found links := by
  induction path generalizing location with
  | nil =>
      simp only [walkWith, Option.some.injEq] at walked
      subst found
      exact ⟨0, .done⟩
  | cons name rest ih =>
      rw [walkWith] at walked
      by_cases dir : lstat nodes location ≠ some .dir
      · simp [dir] at walked
      rw [if_neg dir] at walked
      by_cases blank : name = [] ∨ name = ['.']
      · rw [if_pos blank] at walked
        obtain ⟨links, tail⟩ := ih walked
        exact ⟨links, .stay blank tail⟩
      rw [if_neg blank] at walked
      by_cases dots : name = ['.', '.']
      · rw [if_pos dots] at walked
        obtain ⟨links, tail⟩ := ih walked
        exact ⟨links, .up dots tail⟩
      rw [if_neg dots] at walked
      cases node : lstat nodes (location ++ [name]) with
      | none => simp [node] at walked
      | some entry =>
          cases entry with
          | symlink target =>
              simp only [node] at walked
              obtain ⟨links, whole⟩ := followed _ _ walked
              obtain ⟨middle, before, after, head, tail, _⟩ := whole.split
              exact ⟨_, .follow blank dots node head tail⟩
          | dir =>
              simp only [node] at walked
              obtain ⟨links, tail⟩ := ih walked
              exact ⟨links, .enter blank dots (by simp [IsLink, node]) tail⟩
          | file content =>
              simp only [node] at walked
              obtain ⟨links, tail⟩ := ih walked
              exact ⟨links, .enter blank dots (by simp [IsLink, node]) tail⟩

theorem walk_walks {nodes : Nodes} {budget : Nat} {location found : Location} {path : List Str}
    (walked : walk nodes budget location path = some found) :
    ∃ links, Walks nodes location path found links := by
  induction budget generalizing location path with
  | zero => exact walkWith_walks (by simp) walked
  | succ budget ih => exact walkWith_walks (fun _ _ followed => ih followed) walked

end DongleRescue.Posix
