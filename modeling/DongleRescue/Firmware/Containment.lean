import DongleRescue.Firmware.Probes

namespace DongleRescue.Firmware

open DongleRescue.Data DongleRescue.Posix

/-! On a file system, what the presence check reports is in the firmware tree: a link that
leads out of the tree is never followed to a file that counts as installed. -/

section Containment

variable {fs : FileSystem} {strerror : Str → Str} {full root relPath module : Str}

/-- The file exists, and is really below the root; everything is below the root directory. -/
def InTree (fs : FileSystem) (root full : Str) : Prop :=
  fs.exists_ full = true ∧ (rstripSlashes root = [] ∨ Below fs root full)

/-- The real path of a file that passes the lexical test is below the real path of the root. -/
theorem below_of_contained (nonempty : rstripSlashes root ≠ []) (present : fs.exists_ full = true)
    (contained : startsWith (fs.realpath full) (rstripSlashes root ++ ['/']) = true) : Below fs root full := by
  have canonical := FileSystem.realLocation_canonical present
  obtain ⟨first, second, split, firstNonempty, secondNonempty, same⟩ :=
    render_prefix nonempty canonical.1 contained
  rw [split] at canonical
  have fixed := FileSystem.realLocation_render firstNonempty canonical.of_append
  refine ⟨second, secondNonempty, ?_⟩
  rw [split, ← realLocation_rstripSlashes nonempty, same, fixed]

theorem existsUnderRoot_iff_inTree :
    existsUnderRoot (realHost fs strerror) full (rstripSlashes root) = some true ↔
      WrittenReal fs root ∧ InTree fs root full := by
  rw [existsUnderRoot_realHost_iff]
  constructor
  · intro ⟨present, contained⟩
    refine ⟨writtenReal_of_contained present contained, present, ?_⟩
    by_cases nonempty : rstripSlashes root = []
    · exact .inl nonempty
    · exact .inr (below_of_contained nonempty present contained)
  · intro ⟨written, present, place⟩
    refine ⟨present, ?_⟩
    rcases place with empty | below
    · rw [empty]
      rfl
    · exact contained_of_writtenReal written below

theorem existsUnderRoot_realHost_ne_none :
    existsUnderRoot (realHost fs strerror) full (rstripSlashes root) ≠ none := by
  intro unknown
  rcases existsUnderRoot_answers.2.mp unknown with ⟨_, failed⟩ | ⟨_, _, failed⟩
  · cases failed
  · cases failed

/-- A file system answers every probe: the check is undecided for names outside the grammar
alone, and it reports the files of the tree, as long as the root is written as its real path. -/
theorem checkFirmwarePresence_realHost [Interpreter] (fs : FileSystem) (strerror : Str → Str)
    (module relPath root : Str) :
    ∃ st, checkFirmwarePresence (realHost fs strerror) module relPath root = .ok st ∧
      (st.installed = none ↔ fwNameValid relPath = false) ∧
      (st.installed = some true ↔ fwNameValid relPath = true ∧ WrittenReal fs root ∧
        ∃ form ∈ firmwareForms,
          InTree fs root (candidatePath (rstripSlashes root) (normpath relPath) form.1)) := by
  cases valid : fwNameValid relPath with
  | false =>
      have rejected : (!fwNameValid relPath) = true := by simp [valid]
      refine ⟨_, if_pos rejected, iff_of_true rfl rfl, iff_of_false ?_ ?_⟩
      · intro installed
        cases installed
      · intro accepted
        cases accepted.1
  | true =>
      have honest : Honest (realHost fs strerror) root (normpath relPath)
          (presenceStatus (realHost fs strerror) module (normpath relPath) (rstripSlashes root)) :=
        presenceStatus_honest
      refine ⟨_, checkFirmwarePresence_eq valid, iff_of_false ?_ Bool.noConfusion, ?_⟩
      · intro unknown
        obtain ⟨_, form, _, failed⟩ := honest.unknown.mp unknown
        exact existsUnderRoot_realHost_ne_none (probeFails_iff.mp failed)
      · rw [honest.present]
        simp only [contained_iff, formState, existsUnderRoot_iff_inTree, true_and]
        constructor
        · rintro ⟨form, member, written, inTree⟩
          exact ⟨written, form, member, inTree⟩
        · rintro ⟨written, form, member, inTree⟩
          exact ⟨form, member, written, inTree⟩

end Containment

end DongleRescue.Firmware
