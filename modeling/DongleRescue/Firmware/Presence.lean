import DongleRescue.Firmware.Resolver

namespace DongleRescue.Firmware

open DongleRescue.Data DongleRescue.Posix

/-! Presence of firmware on a file system with symbolic links: what the lexical
containment test finds, against where the files really are. -/

section Names

variable {name : Str}

theorem fwNameValid_parts (valid : fwNameValid name = true) :
    ∃ c rest, name = c :: rest ∧ c ∈ asciiAlnum ∧
      (∀ d ∈ rest, d ∈ asciiAlnum ∨ d ∈ ("._/-" : Str)) ∧ contains name ".." = false := by
  match name with
  | [] => cases valid
  | c :: rest =>
      simp only [fwNameValid, Bool.and_eq_true, List.contains_iff_mem, List.all_eq_true,
        Bool.or_eq_true, Bool.not_eq_true'] at valid
      obtain ⟨⟨⟨⟨⟨_, first⟩, others⟩, noDots⟩, _⟩, _⟩ := valid
      exact ⟨c, rest, rfl, first, others, noDots⟩

private theorem descends_of_fwNameValid (valid : fwNameValid name = true) : Descends name := by
  obtain ⟨c, rest, same, first, _, noDots⟩ := fwNameValid_parts valid
  have start : ∀ d ∈ asciiAlnum, d ≠ '/' ∧ d ≠ '.' := by decide
  refine ⟨by simp [same], ?_, ?_⟩
  · intro d found
    have sameChar : c = d := by simpa [same] using found
    exact start d (sameChar ▸ first)
  · intro part member dots
    have inside := infix_of_mem_names member
    rw [dots] at inside
    have found : contains name ".." = true := contains_iff.mpr inside
    rw [found] at noDots
    cases noDots

private theorem plain_of_fwNameValid (valid : fwNameValid name = true) :
    ∀ d ∈ name, d ≠ '\\' ∧ d ≠ Char.ofNat 0 := by
  obtain ⟨c, rest, same, first, others, _⟩ := fwNameValid_parts valid
  have alnum : ∀ d ∈ asciiAlnum, d ≠ '\\' ∧ d ≠ Char.ofNat 0 := by decide
  have marks : ∀ d ∈ ("._/-" : Str), d ≠ '\\' ∧ d ≠ Char.ofNat 0 := by decide
  rw [same, List.forall_mem_cons]
  exact ⟨alnum c first, fun d later => (others d later).elim (alnum d) (marks d)⟩

theorem requireFirmwarePath_of_fwNameValid [Interpreter] (valid : fwNameValid name = true) :
    requireFirmwarePath name = .ok (normpath name) := by
  have descends := descends_of_fwNameValid valid
  have plain := plain_of_fwNameValid valid
  obtain ⟨c, rest, same⟩ := List.exists_cons_of_ne_nil descends.nonempty
  obtain ⟨d, more, joined, _, notDot⟩ := descends.join_keptNames
  have norm : normpath name = d :: more := descends.normpath_eq.trans joined
  have accepted : ¬ (name = [] ∨ startsWith name "/" = true ∨ name.contains '\\' = true) := by
    rw [List.contains_iff_mem]
    rintro (empty | slash | backslash)
    · exact descends.nonempty empty
    · have notSlash := (descends.head c (by simp [same])).1
      simp [same, startsWith, List.isPrefixOf, Ne.symm notSlash] at slash
    · exact (plain _ backslash).1 rfl
  have outside : ¬ (startsWith (normpath name) ".." = true ∨ normpath name = "." ∨
      (normpath name).contains (Char.ofNat 0) = true) := by
    rw [List.contains_iff_mem]
    rintro (dots | dot | nul)
    · rw [norm] at dots
      simp [startsWith, List.isPrefixOf, Ne.symm notDot] at dots
    · rw [norm] at dot
      exact notDot (List.cons.inj dot).1
    · rcases descends.mem_normpath nul with slash | inName
      · exact absurd slash (by decide)
      · exact (plain _ inName).2 rfl
  have partsClean : ¬ ((names (normpath name)).any
      fun part => part = [] ∨ part = ['.'] ∨ part = ['.', '.']) = true := by
    rw [descends.names_normpath, List.any_eq_true]
    rintro ⟨part, member, bad⟩
    obtain ⟨nonempty, notHere, notUp, _⟩ := descends.cleanName member
    exact absurd bad (by simp [nonempty, notHere, notUp])
  exact (if_neg accepted).trans ((if_neg outside).trans (if_neg partsClean))

end Names

section Probing

variable {host : Host} {base canon : Str}

theorem probeForms_found_iff {indeterminate : Bool} {forms : List (Str × Str)} :
    (probeForms host base canon indeterminate forms).1.isSome = true ↔
      ∃ form ∈ forms, existsUnderRoot host (candidatePath base canon form.1) base = some true := by
  induction forms generalizing indeterminate with
  | nil => simp [probeForms]
  | cons form forms ih =>
      rw [probeForms]
      cases probe : existsUnderRoot host (candidatePath base canon form.1) base with
      | none => simp [ih, probe]
      | some contained =>
          cases contained with
          | false => simp [ih, probe]
          | true => simp [probe]

theorem presenceStatus_installed_iff {module : Str} :
    (presenceStatus host module canon base).installed = some true ↔
      ∃ form ∈ firmwareForms,
        existsUnderRoot host (candidatePath base canon form.1) base = some true := by
  have probed := @probeForms_found_iff host base canon false firmwareForms
  rw [← probed]
  rw [presenceStatus]
  split
  · rename_i found
    simp [found]
  · rename_i found
    simp [found]
  · rename_i found
    simp [found]

theorem checkFirmwarePresence_eq [Interpreter] {module relPath root : Str}
    (valid : fwNameValid relPath = true) :
    checkFirmwarePresence host module relPath root =
      .ok (presenceStatus host module (normpath relPath) (rstripSlashes root)) := by
  rw [checkFirmwarePresence]
  rw [valid, requireFirmwarePath_of_fwNameValid valid]
  rfl

end Probing

section Containment

variable {fs : FileSystem} {strerror : Str → Str}

theorem rstripSlashes_rstripSlashes (path : Str) :
    rstripSlashes (rstripSlashes path) = rstripSlashes path :=
  List.rdropWhile_idempotent _ _

theorem realLocation_rstripSlashes {root : Str} (nonempty : rstripSlashes root ≠ []) :
    fs.realLocation (rstripSlashes root) = fs.realLocation root := by
  have split : rstripSlashes root ++ root.rtakeWhile (· == '/') = root :=
    List.rdropWhile_append_rtakeWhile
  have only : ∀ c ∈ root.rtakeWhile (· == '/'), c = '/' := by
    intro c member
    simpa using List.mem_rtakeWhile_imp member
  have same : fs.realLocation (rstripSlashes root ++ root.rtakeWhile (· == '/')) = _ :=
    FileSystem.realLocation_slashes nonempty only
  rw [split] at same
  exact same.symm

/-- The three answers of the probe: contained, unknown after a failure, else absent. -/
theorem existsUnderRoot_answers {host : Host} {full root : Str} :
    (existsUnderRoot host full root = some true ↔ host.exists full = .ok true ∧
      ∃ real, host.resolveRealpath full = .ok real ∧ startsWith real (rstripSlashes root ++ ['/']) = true) ∧
    (existsUnderRoot host full root = none ↔ (∃ failure, host.exists full = .error failure) ∨
      host.exists full = .ok true ∧ ∃ failure, host.resolveRealpath full = .error failure) := by
  rw [existsUnderRoot]
  cases present : host.exists full with
  | error failure => simp
  | ok found =>
      cases found with
      | false => simp
      | true =>
          cases resolved : host.resolveRealpath full with
          | error failure => simp
          | ok real => simp

theorem existsUnderRoot_realHost_iff {full root : Str} :
    existsUnderRoot (realHost fs strerror) full (rstripSlashes root) = some true ↔
      fs.exists_ full = true ∧ startsWith (fs.realpath full) (rstripSlashes root ++ ['/']) = true := by
  rw [existsUnderRoot_answers.1, rstripSlashes_rstripSlashes]
  simp [realHost]

def Below (fs : FileSystem) (root full : Str) : Prop :=
  ∃ rest, rest ≠ [] ∧ fs.realLocation full = fs.realLocation root ++ rest

/-- The root is written as the kernel would: empty (the root directory), or the
very text of its real path. -/
def WrittenReal (fs : FileSystem) (root : Str) : Prop :=
  rstripSlashes root = [] ∨ rstripSlashes root = fs.realpath root

/-- A file that passes the lexical test gives the root away as a real path. -/
theorem writtenReal_of_contained {full root : Str} (present : fs.exists_ full = true)
    (contained : startsWith (fs.realpath full) (rstripSlashes root ++ ['/']) = true) :
    WrittenReal fs root := by
  by_cases nonempty : rstripSlashes root = []
  · exact .inl nonempty
  · have canonical := FileSystem.realLocation_canonical present
    obtain ⟨first, second, split, firstNonempty, _, same⟩ :=
      render_prefix nonempty canonical.1 contained
    rw [split] at canonical
    have fixed := FileSystem.realLocation_render firstNonempty canonical.of_append
    refine .inr ?_
    rw [FileSystem.realpath, ← realLocation_rstripSlashes nonempty, same, fixed]

theorem contained_of_writtenReal {full root : Str} (written : WrittenReal fs root)
    (below : Below fs root full) :
    startsWith (fs.realpath full) (rstripSlashes root ++ ['/']) = true := by
  obtain ⟨rest, nonempty, split⟩ := below
  rcases written with empty | real
  · rw [empty]
    rfl
  · have rootNonempty : fs.realLocation root ≠ [] := by
      intro empty
      have stripped := rstripSlashes_rstripSlashes root
      rw [real, FileSystem.realpath, empty] at stripped
      cases stripped
    rw [FileSystem.realpath, split, render_append rootNonempty nonempty, real]
    exact startsWith_iff.mpr ⟨join ['/'] rest, by simp [FileSystem.realpath]⟩

def OnDisk (fs : FileSystem) (relPath root : Str) : Prop :=
  ∃ form ∈ firmwareForms,
    fs.exists_ (candidatePath (rstripSlashes root) (normpath relPath) form.1) = true ∧
      Below fs root (candidatePath (rstripSlashes root) (normpath relPath) form.1)

/-- Firmware on the disk is found exactly when the root is written as its own real
path: with a symbolic link among the root's ancestors, nothing below it is found. -/
theorem installed_iff_writtenReal [Interpreter] {module relPath root : Str}
    (valid : fwNameValid relPath = true) (onDisk : OnDisk fs relPath root) :
    (∃ st, checkFirmwarePresence (realHost fs strerror) module relPath root = .ok st ∧
      st.installed = some true) ↔ WrittenReal fs root := by
  rw [checkFirmwarePresence_eq valid]
  constructor
  · intro ⟨st, returned, installed⟩
    cases returned
    obtain ⟨form, _, found⟩ := presenceStatus_installed_iff.mp installed
    obtain ⟨present, contained⟩ := existsUnderRoot_realHost_iff.mp found
    exact writtenReal_of_contained present contained
  · intro written
    obtain ⟨form, member, present, below⟩ := onDisk
    refine ⟨_, rfl, presenceStatus_installed_iff.mpr ⟨form, member, ?_⟩⟩
    exact existsUnderRoot_realHost_iff.mpr ⟨present, contained_of_writtenReal written below⟩

/-- A tree with one firmware file, where `/lib` is a link as on merged systems. -/
def mergedUsr : FileSystem where
  nodes := [(["lib"], .symlink "usr/lib"), (["usr"], .dir), (["usr", "lib"], .dir),
    (["usr", "lib", "firmware"], .dir), (["usr", "lib", "firmware", "mt7601u.bin"], .file [])]
  cwd := []
  maxSymlinks := 40
  cwdCanonical := .root _

theorem installed_iff_writtenReal_usr :
    ∃ st, @checkFirmwarePresence asciiInterpreter (realHost mergedUsr id) "mt7601u" "mt7601u.bin"
      "/usr/lib/firmware" = .ok st ∧ st.installed = some true :=
  (@installed_iff_writtenReal mergedUsr id asciiInterpreter "mt7601u" "mt7601u.bin"
    "/usr/lib/firmware" (by decide)
    ⟨([], "raw"), by decide, by decide +kernel, ["mt7601u.bin"], by decide, by decide +kernel⟩).mpr
    (.inr (by decide +kernel))

/-- The default root goes through the link, so the installed file is reported absent. -/
theorem merged_usr_reported_absent :
    fwNameValid "mt7601u.bin" = true ∧ OnDisk mergedUsr "mt7601u.bin" firmwareRoot ∧
      ∃ st, @checkFirmwarePresence asciiInterpreter (realHost mergedUsr id) "mt7601u" "mt7601u.bin"
        firmwareRoot = .ok st ∧ st.installed = some false := by
  refine ⟨by decide, ?_, _, @checkFirmwarePresence_eq _ asciiInterpreter _ _ _ (by decide), ?_⟩
  · exact ⟨([], "raw"), by decide, by decide +kernel, ["mt7601u.bin"], by decide, by decide +kernel⟩
  · decide +kernel

end Containment

end DongleRescue.Firmware
