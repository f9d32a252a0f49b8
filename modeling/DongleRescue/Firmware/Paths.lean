import DongleRescue.Firmware.Presence
import DongleRescue.Posix.Join

namespace DongleRescue.Firmware

open DongleRescue.Data DongleRescue.Posix

/-! The paths that the firmware path grammar hands on: relative, free of parent
references, and fixed by a second pass. -/

/-- A path that can be joined to any root. -/
structure SafePath (path : Str) : Prop where
  relative : isAbsolute path = false
  nonempty : path ≠ []
  components : ∀ part ∈ names path, part ≠ [] ∧ part ≠ ['.'] ∧ part ≠ ['.', '.']
  noBackslash : '\\' ∉ path
  noNul : Char.ofNat 0 ∉ path
  below : ∀ root, NormalRoot root → StrictlyBelow root (normpath (joinPath root path))

/-- What the grammar has checked of a path it returns. -/
structure Checked (value path : Str) : Prop where
  nonempty : value ≠ []
  relative : startsWith value "/" = false
  noBackslash : '\\' ∉ value
  normal : path = normpath value
  inside : startsWith path ".." = false
  named : path ≠ "."
  noNul : Char.ofNat 0 ∉ path
  components : ∀ part ∈ names path, part ≠ [] ∧ part ≠ ['.'] ∧ part ≠ ['.', '.']

section Grammar

variable [Interpreter] {value path : Str}

theorem requireFirmwarePath_eq_ok_iff : requireFirmwarePath value = .ok path ↔ Checked value path := by
  constructor
  · intro accepted
    rw [requireFirmwarePath] at accepted
    simp only at accepted
    split at accepted
    · cases accepted
    · rename_i shape
      split at accepted
      · cases accepted
      · rename_i inside
        split at accepted
        · cases accepted
        · rename_i clean
          have normal := Except.ok.inj accepted
          subst normal
          simp only [not_or, Bool.not_eq_true, List.contains_iff_mem] at shape inside
          obtain ⟨nonempty, relative, noBackslash⟩ := shape
          obtain ⟨noDots, named, noNul⟩ := inside
          refine ⟨nonempty, relative, by simpa using noBackslash, rfl, noDots, named, by simpa using noNul, ?_⟩
          intro part member
          have bad : ¬ (part = [] ∨ part = ['.'] ∨ part = ['.', '.']) := by
            intro bad
            exact clean (List.any_eq_true.mpr ⟨part, member, by simpa using bad⟩)
          simpa [not_or] using bad
  · intro checked
    have shape : ¬ (value = [] ∨ startsWith value "/" = true ∨ value.contains '\\' = true) := by
      rw [checked.relative, List.contains_iff_mem]
      simp [checked.nonempty, checked.noBackslash]
    have inside : ¬ (startsWith (normpath value) ".." = true ∨ normpath value = "." ∨
        (normpath value).contains (Char.ofNat 0) = true) := by
      rw [← checked.normal, checked.inside, List.contains_iff_mem]
      rintro (dots | dot | nul)
      · cases dots
      · exact checked.named dot
      · exact checked.noNul nul
    have clean : ¬ ((names (normpath value)).any
        fun part => part = [] ∨ part = ['.'] ∨ part = ['.', '.']) = true := by
      rw [← checked.normal, List.any_eq_true]
      intro ⟨part, member, bad⟩
      obtain ⟨nonempty, notHere, notUp⟩ := checked.components part member
      simp [nonempty, notHere, notUp] at bad
    rw [requireFirmwarePath]
    simp only
    rw [if_neg shape, if_neg inside, if_neg clean, checked.normal]

end Grammar

namespace Checked

variable {value path : Str} (checked : Checked value path)
include checked

theorem cleanNames : ∀ name ∈ names path, CleanName name := by
  intro name member
  obtain ⟨nonempty, notHere, notUp⟩ := checked.components name member
  exact ⟨nonempty, notHere, notUp, slash_not_mem_names member⟩

omit checked in
theorem rejoin : join ['/'] (names path) = path := List.intercalate_splitOn '/'

theorem isAbsolute_eq : isAbsolute path = false := by
  have relative := isAbsolute_join checked.cleanNames
  rwa [rejoin] at relative

theorem fixed : normpath path = path := by
  have same : normpath (List.replicate 0 '/' ++ join ['/'] (names path)) = _ :=
    normpath_clean (by decide) (names_ne_nil path) checked.cleanNames
  rwa [List.replicate_zero, List.nil_append, rejoin] at same

theorem path_nonempty : path ≠ [] := by
  have nonempty := join_ne_nil (names_ne_nil path) checked.cleanNames
  rwa [rejoin] at nonempty

/-- Normalization adds no letters. -/
theorem backslash_notMem : '\\' ∉ path := by
  intro backslash
  rw [checked.normal] at backslash
  rcases mem_of_mem_normpath backslash with slash | dot | inValue
  · exact absurd slash (by decide)
  · exact absurd dot (by decide)
  · exact checked.noBackslash inValue

theorem safe : SafePath path where
  relative := checked.isAbsolute_eq
  nonempty := checked.path_nonempty
  components := checked.components
  noBackslash := checked.backslash_notMem
  noNul := checked.noNul
  below := by
    intro root normal
    refine ⟨names path, names_ne_nil path, checked.cleanNames, ?_⟩
    have joined := normpath_joinPath normal (names_ne_nil path) checked.cleanNames
    rwa [rejoin] at joined ⊢

/-- A second pass accepts what the first returned, unchanged. -/
theorem again : Checked path path where
  nonempty := checked.path_nonempty
  relative := checked.isAbsolute_eq
  noBackslash := checked.backslash_notMem
  normal := checked.fixed.symm
  inside := checked.inside
  named := checked.named
  noNul := checked.noNul
  components := checked.components

end Checked

/-- Whatever text comes in: what is returned is safe below every root and stable, and the
grammar of logged names is within this one. -/
theorem requireFirmwarePath_safe [Interpreter] (value : Str) :
    (∀ path, requireFirmwarePath value = .ok path →
      SafePath path ∧ requireFirmwarePath path = .ok path) ∧
    (fwNameValid value = true → ∃ path, requireFirmwarePath value = .ok path) := by
  refine ⟨fun path accepted => ?_, fun valid => ⟨_, requireFirmwarePath_of_fwNameValid valid⟩⟩
  have checked := requireFirmwarePath_eq_ok_iff.mp accepted
  exact ⟨checked.safe, requireFirmwarePath_eq_ok_iff.mpr checked.again⟩

end DongleRescue.Firmware
