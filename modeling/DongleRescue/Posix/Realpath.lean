import DongleRescue.Posix.FileSystem
import Mathlib.Data.List.Nodup
import Mathlib.Data.List.Perm.Subperm

namespace DongleRescue.Posix

open DongleRescue.Data

/-! `os.path.realpath`: it resolves as far as it can and, unlike the kernel, bounds
nothing and accepts missing components. -/

def appendNames (location : Location) : List Str → Location
  | [] => location
  | name :: rest =>
      if name = [] ∨ name = ['.'] then appendNames location rest
      else if name = ['.', '.'] then appendNames location.dropLast rest
      else appendNames (location ++ [name]) rest

private def joinWith (nodes : Nodes)
    (resolve : List Location → Location → List Str → Location × Bool) (active : List Location) :
    Location → List Str → Location × Bool
  | location, [] => (location, true)
  | location, name :: rest =>
      if name = [] ∨ name = ['.'] then joinWith nodes resolve active location rest
      else if name = ['.', '.'] then joinWith nodes resolve active location.dropLast rest
      else match lstat nodes (location ++ [name]) with
        | some (.symlink target) =>
            -- A link met while its own target is being resolved is a loop.
            if location ++ [name] ∈ active then (appendNames (location ++ [name]) rest, false)
            else match resolve ((location ++ [name]) :: active) (linkBase location target)
                (names target) with
              | (found, true) => joinWith nodes resolve active found rest
              | (found, false) => (appendNames found rest, false)
        | _ => joinWith nodes resolve active (location ++ [name]) rest

/-- Resolve as far as possible; `active` are the links being resolved, and no
nesting is deeper than the number of entries. -/
def joinRealpath (nodes : Nodes) : Nat → List Location → Location → List Str → Location × Bool
  | 0 => joinWith nodes fun _ location rest => (appendNames location rest, false)
  | depth + 1 => joinWith nodes (joinRealpath nodes depth)

namespace FileSystem

def realLocation (fs : FileSystem) (path : Str) : Location :=
  (joinRealpath fs.nodes fs.nodes.length [] (fs.start path) (names path)).1

def realpath (fs : FileSystem) (path : Str) : Str := render (fs.realLocation path)

end FileSystem

variable {nodes : Nodes} {location found : Location} {path rest : List Str} {name : Str}
  {links depth : Nat} {active : List Location}

private theorem joinRealpath_nil :
    joinRealpath nodes depth active location [] = (location, true) := by
  cases depth <;> rfl

private theorem joinRealpath_blank (blank : name = [] ∨ name = ['.']) :
    joinRealpath nodes depth active location (name :: rest) =
      joinRealpath nodes depth active location rest := by
  cases depth <;> simp only [joinRealpath, joinWith, if_pos blank]

private theorem joinRealpath_dots :
    joinRealpath nodes depth active location (['.', '.'] :: rest) =
      joinRealpath nodes depth active location.dropLast rest := by
  cases depth <;> simp [joinRealpath, joinWith]

private theorem joinRealpath_enter (notBlank : ¬ (name = [] ∨ name = ['.']))
    (notDots : name ≠ ['.', '.']) (notLink : ¬ IsLink nodes (location ++ [name])) :
    joinRealpath nodes depth active location (name :: rest) =
      joinRealpath nodes depth active (location ++ [name]) rest := by
  cases node : lstat nodes (location ++ [name]) with
  | none => cases depth <;> simp only [joinRealpath, joinWith, if_neg notBlank, if_neg notDots, node]
  | some entry =>
      cases entry with
      | symlink target => exact absurd ⟨target, node⟩ notLink
      | dir =>
          cases depth <;> simp only [joinRealpath, joinWith, if_neg notBlank, if_neg notDots, node]
      | file content =>
          cases depth <;> simp only [joinRealpath, joinWith, if_neg notBlank, if_neg notDots, node]

private theorem joinRealpath_follow {target : Str} {middle : Location}
    (notBlank : ¬ (name = [] ∨ name = ['.'])) (notDots : name ≠ ['.', '.'])
    (link : lstat nodes (location ++ [name]) = some (.symlink target))
    (fresh : location ++ [name] ∉ active)
    (resolved : joinRealpath nodes depth ((location ++ [name]) :: active)
      (linkBase location target) (names target) = (middle, true)) :
    joinRealpath nodes (depth + 1) active location (name :: rest) =
      joinRealpath nodes (depth + 1) active middle rest := by
  simp only [joinRealpath, joinWith, if_neg notBlank, if_neg notDots, link, if_neg fresh, resolved]

private theorem appendNames_blank :
    appendNames location (path ++ [[]]) = appendNames location path := by
  induction path generalizing location with
  | nil => simp [appendNames]
  | cons name rest ih => simp only [List.cons_append, appendNames, ih]

private theorem joinWith_blank {resolve : List Location → Location → List Str → Location × Bool} :
    joinWith nodes resolve active location (path ++ [[]]) =
      joinWith nodes resolve active location path := by
  induction path generalizing location with
  | nil => simp [joinWith]
  | cons name rest ih => simp only [List.cons_append, joinWith, ih, appendNames_blank]

private theorem joinRealpath_trailing :
    joinRealpath nodes depth active location (path ++ [[]]) =
      joinRealpath nodes depth active location path := by
  cases depth <;> exact joinWith_blank

private theorem lstat_entry {node : Node} (nonempty : location ≠ [])
    (entry : lstat nodes location = some node) : location ∈ nodes.map Prod.fst := by
  rw [lstat, if_neg nonempty, Option.map_eq_some_iff] at entry
  obtain ⟨pair, lookup, _⟩ := entry
  have member := List.mem_of_find?_eq_some lookup
  have same := List.find?_some lookup
  simp only [decide_eq_true_eq] at same
  rw [← same]
  exact List.mem_map_of_mem member

/-- A link is slower than a walk when resolving it alone follows more links than
the whole walk does, so the walk cannot meet it. -/
private def Slower (nodes : Nodes) (links : Nat) (link : Location) : Prop :=
  ∃ parent name reached cost, link = parent ++ [name] ∧
    Walks nodes parent [name] reached cost ∧ links < cost

private theorem Slower.mono {link : Location} {fewer : Nat} (slower : Slower nodes links link)
    (less : fewer ≤ links) : Slower nodes fewer link := by
  obtain ⟨parent, name, reached, cost, same, walks, bound⟩ := slower
  exact ⟨parent, name, reached, cost, same, walks, by omega⟩

/-- A walk that terminates meets no loop, and `realpath` ends where it ends.  The
links being resolved stay slower than what is left of the walk. -/
private theorem Walks.joinRealpath_eq (walks : Walks nodes location path found links)
    (nodup : active.Nodup) (entries : ∀ link ∈ active, link ∈ nodes.map Prod.fst)
    (slower : ∀ link ∈ active, Slower nodes links link)
    (enough : nodes.length ≤ depth + active.length) :
    joinRealpath nodes depth active location path = (found, true) := by
  induction walks generalizing active depth with
  | done => exact joinRealpath_nil
  | stay blank _ ih => rw [joinRealpath_blank blank, ih nodup entries slower enough]
  | up dots _ ih =>
      subst dots
      rw [joinRealpath_dots, ih nodup entries slower enough]
  | enter notBlank notDots notLink _ ih =>
      rw [joinRealpath_enter notBlank notDots notLink, ih nodup entries slower enough]
  | @follow name location target middle links rest _ later notBlank notDots link head _ headIH tailIH =>
      have alone : Walks nodes location [name] middle (links + 0 + 1) :=
        .follow notBlank notDots link head .done
      have fresh : location ++ [name] ∉ active := by
        intro member
        obtain ⟨parent, other, reached, cost, same, walks, bound⟩ := slower _ member
        obtain ⟨rfl, singleton⟩ := List.append_inj' same rfl
        cases singleton
        have cost := (walks.deterministic alone).2
        omega
      have entry := lstat_entry (by simp) link
      have nodup' : ((location ++ [name]) :: active).Nodup := List.nodup_cons.mpr ⟨fresh, nodup⟩
      have entries' : ∀ other ∈ (location ++ [name]) :: active, other ∈ nodes.map Prod.fst := by
        intro other member
        rcases List.mem_cons.mp member with same | member
        · rw [same]
          exact entry
        · exact entries other member
      have room := (List.subperm_of_subset nodup' entries').length_le
      simp only [List.length_cons, List.length_map] at room
      obtain ⟨shallower, rfl⟩ : ∃ shallower, depth = shallower + 1 := ⟨depth - 1, by omega⟩
      have slower' : ∀ other ∈ (location ++ [name]) :: active, Slower nodes links other := by
        intro other member
        rcases List.mem_cons.mp member with same | member
        · exact ⟨location, name, middle, _, same, alone, by omega⟩
        · exact (slower other member).mono (by omega)
      have enough' : nodes.length ≤ shallower + ((location ++ [name]) :: active).length := by
        simp only [List.length_cons]
        omega
      have resolved := headIH nodup' entries' slower' enough'
      rw [joinRealpath_follow notBlank notDots link fresh resolved]
      exact tailIH nodup entries (fun other member => (slower other member).mono (by omega)) enough

/-- A path that exists has a symlink-free real location. -/
theorem FileSystem.realLocation_canonical {fs : FileSystem} {path : Str}
    (present : fs.exists_ path = true) : Canonical fs.nodes (fs.realLocation path) := by
  have before : Canonical fs.nodes (fs.start path) := by
    rw [FileSystem.start]
    split
    · exact .root fs.nodes
    · exact fs.cwdCanonical
  unfold FileSystem.exists_ FileSystem.stat at present
  split at present
  · simp at present
  · cases walked : walk fs.nodes fs.maxSymlinks (fs.start path) (names path) with
    | none => simp [walked] at present
    | some found =>
        obtain ⟨links, walks⟩ := walk_walks walked
        have resolved : joinRealpath fs.nodes fs.nodes.length [] (fs.start path) (names path) =
            (found, true) :=
          walks.joinRealpath_eq (by simp) (by simp) (by simp) (by simp)
        rw [FileSystem.realLocation, resolved]
        exact walks.canonical (fun name member => slash_not_mem_names member) before

private theorem joinRealpath_canonical {rest : Location}
    (canonical : Canonical nodes (location ++ rest)) :
    joinRealpath nodes depth active location rest = (location ++ rest, true) := by
  induction rest generalizing location with
  | nil => simp [joinRealpath_nil]
  | cons name rest ih =>
      obtain ⟨nonempty, notDot, notDots, _⟩ := canonical.1 name (by simp)
      have step : location ++ name :: rest = (location ++ [name]) ++ rest := by simp
      have notLink : ¬ IsLink nodes (location ++ [name]) :=
        canonical.2 _ (by rw [step]; exact List.prefix_append _ _)
      rw [joinRealpath_enter (by simp [nonempty, notDot]) notDots notLink, step]
      exact ih (by rw [← step]; exact canonical)

theorem Canonical.of_append {first second : Location}
    (canonical : Canonical nodes (first ++ second)) : Canonical nodes first :=
  ⟨fun name member => canonical.1 name (by simp [member]),
    fun upto start => canonical.2 upto (start.trans (List.prefix_append _ _))⟩

theorem FileSystem.realLocation_render {fs : FileSystem} (nonempty : location ≠ [])
    (canonical : Canonical fs.nodes location) : fs.realLocation (render location) = location := by
  have split := names_render nonempty (fun name member => (canonical.1 name member).2.2.2)
  have absolute : fs.start (render location) = [] := rfl
  have resolved : joinRealpath fs.nodes fs.nodes.length [] [] location = (location, true) :=
    joinRealpath_canonical canonical
  rw [FileSystem.realLocation, absolute, split, joinRealpath_blank (.inl rfl), resolved]

theorem FileSystem.realLocation_slashes {fs : FileSystem} {path slashes : Str}
    (nonempty : path ≠ []) (only : ∀ c ∈ slashes, c = '/') :
    fs.realLocation (path ++ slashes) = fs.realLocation path := by
  induction slashes using List.reverseRecOn with
  | nil => simp
  | append_singleton slashes c ih =>
      have shorter := ih (fun d member => only d (by simp [member]))
      rw [only c (by simp), ← shorter, ← List.append_assoc]
      have sameStart : fs.start (path ++ slashes ++ ['/']) = fs.start (path ++ slashes) := by
        obtain ⟨d, rest, rfl⟩ := List.exists_cons_of_ne_nil nonempty
        simp [FileSystem.start, isAbsolute, startsWith, List.isPrefixOf]
      have split : names (path ++ slashes ++ ['/']) = names (path ++ slashes) ++ [[]] :=
        names_append_slash (path ++ slashes) []
      rw [FileSystem.realLocation, sameStart, split, joinRealpath_trailing, FileSystem.realLocation]

end DongleRescue.Posix
