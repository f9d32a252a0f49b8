import DongleRescue.Firmware.Resolver

namespace DongleRescue.Firmware

open DongleRescue.Data

/-! The owner of a firmware file in the knowledge base: the first entry that declares the
file or another of its last component. -/

section Owner

variable [Interpreter] {kb : Kb} {relPath : Str} {owner : KbEntry} {mapping : PackageMapping}

theorem mapFirmwareToPackages_owned (found : kb.chipsets.find? (declares · relPath) = some owner)
    (mapped : mapFirmwareToPackages kb relPath = .ok mapping) :
    ∃ chipset level, owner.chipset = some chipset ∧ owner.level "UNKNOWN" = .ok level ∧
      mapping = ⟨some chipset, cleanPkgNames owner.fwPackageDebian, level,
        kbEvidence owner ++ [⟨"data/chipsets.json", relPath ++ " -> " ++ chipset⟩]⟩ := by
  rw [mapFirmwareToPackages, found] at mapped
  obtain ⟨chipset, named, mapped⟩ := bind_ok mapped
  obtain ⟨level, levelOk, mapped⟩ := bind_ok mapped
  cases mapped
  exact ⟨chipset, level, KbEntry.name_ok.mp named, levelOk, rfl⟩

/-- A name, and a confidence on the scale. -/
def Readable (entry : KbEntry) : Prop :=
  (∃ chipset, entry.chipset = some chipset) ∧ ∃ level, entry.level "UNKNOWN" = .ok level

theorem mapFirmwareToPackages_of_readable (found : kb.chipsets.find? (declares · relPath) = some owner)
    (readable : Readable owner) : ∃ mapping, mapFirmwareToPackages kb relPath = .ok mapping := by
  obtain ⟨⟨chipset, named⟩, level, levelOk⟩ := readable
  rw [mapFirmwareToPackages, found]
  simp only [KbEntry.name_ok.mpr named, levelOk]
  exact ⟨_, rfl⟩

/-- The path is mapped to this entry's chipset and packages. -/
def AnswersFor (kb : Kb) (relPath : Str) (entry : KbEntry) : Prop :=
  ∃ mapping, mapFirmwareToPackages kb relPath = .ok mapping ∧ mapping.chipset = entry.chipset ∧
    mapping.packages = cleanPkgNames entry.fwPackageDebian

/-- The entries cannot be told apart by name and packages. -/
def SameOwner (first second : KbEntry) : Prop :=
  first.chipset = second.chipset ∧
    cleanPkgNames first.fwPackageDebian = cleanPkgNames second.fwPackageDebian

theorem answersFor_iff (found : kb.chipsets.find? (declares · relPath) = some owner) (entry : KbEntry) :
    AnswersFor kb relPath entry ↔ Readable owner ∧ SameOwner owner entry := by
  constructor
  · intro ⟨mapping, mapped, chipset', packages⟩
    obtain ⟨chipset, level, named, levelOk, same⟩ := mapFirmwareToPackages_owned found mapped
    subst same
    exact ⟨⟨⟨chipset, named⟩, level, levelOk⟩, named.trans chipset', packages⟩
  · intro ⟨readable, sameName, samePackages⟩
    obtain ⟨mapping, mapped⟩ := mapFirmwareToPackages_of_readable found readable
    obtain ⟨chipset, level, named, levelOk, same⟩ := mapFirmwareToPackages_owned found mapped
    subst same
    exact ⟨_, mapped, named.symm.trans sameName, samePackages⟩

end Owner

section Exact

variable [Interpreter] {kb : Kb} {relPath : Str} {earlier later : List KbEntry} {owner : KbEntry}

/-- Some file of the entry has the last component of the path. -/
def SharesName (entry : KbEntry) (relPath : Str) : Prop :=
  ∃ fw ∈ entry.firmware, basename fw = basename relPath

omit [Interpreter] in
theorem declares_iff {entry : KbEntry} : declares entry relPath = true ↔ SharesName entry relPath := by
  rw [declares, List.any_eq_true, SharesName]
  refine exists_congr fun fw => and_congr_right fun _ => ?_
  rw [Bool.or_eq_true, decide_eq_true_eq, decide_eq_true_eq]
  constructor
  · intro hit
    rcases hit with same | sharing
    · rw [same]
    · exact sharing
  · exact .inr

/-- No earlier entry shares the name, or the first that does gives the same answer. -/
inductive Undisturbed (relPath : Str) (earlier : List KbEntry) (owner : KbEntry) : Prop where
  | alone (fresh : ∀ entry ∈ earlier, ¬ SharesName entry relPath) (readable : Readable owner)
  | twin {before after : List KbEntry} {other : KbEntry} (split : earlier = before ++ other :: after)
      (fresh : ∀ entry ∈ before, ¬ SharesName entry relPath) (shares : SharesName other relPath)
      (readable : Readable other) (same : SameOwner other owner)

omit [Interpreter] in
theorem find?_declares {before after : List KbEntry} {other : KbEntry}
    (split : kb.chipsets = before ++ other :: after) (fresh : ∀ entry ∈ before, ¬ SharesName entry relPath)
    (shares : SharesName other relPath) : kb.chipsets.find? (declares · relPath) = some other := by
  rw [List.find?_eq_some_iff_append]
  refine ⟨declares_iff.mpr shares, before, after, split, fun entry member => ?_⟩
  rw [Bool.not_eq_true', ← Bool.not_eq_true, declares_iff]
  exact fresh entry member

omit [Interpreter] in
theorem exists_first_exact (declared : ∃ entry ∈ kb.chipsets, relPath ∈ entry.firmware) :
    ∃ earlier owner later, kb.chipsets = earlier ++ owner :: later ∧ relPath ∈ owner.firmware ∧
      ∀ entry ∈ earlier, relPath ∉ entry.firmware := by
  obtain ⟨entry, member, exact_⟩ := declared
  cases found : kb.chipsets.find? (fun entry => entry.firmware.contains relPath) with
  | none =>
      have missed := List.find?_eq_none.mp found entry member
      exact absurd (List.contains_iff_mem.mpr exact_) missed
  | some owner =>
      obtain ⟨hit, earlier, later, split, fresh⟩ := List.find?_eq_some_iff_append.mp found
      refine ⟨earlier, owner, later, split, List.contains_iff_mem.mp hit, fun other inEarlier => ?_⟩
      simpa using fresh other inEarlier

/-- The first entry to share the name is the owner itself, or stands before it. -/
theorem answersFor_owner_iff (split : kb.chipsets = earlier ++ owner :: later)
    (declared : relPath ∈ owner.firmware) :
    AnswersFor kb relPath owner ↔ Undisturbed relPath earlier owner := by
  have shares : SharesName owner relPath := ⟨relPath, declared, rfl⟩
  cases found : earlier.find? (declares · relPath) with
  | none =>
      have fresh : ∀ entry ∈ earlier, ¬ SharesName entry relPath := by
        intro entry member
        rw [← declares_iff]
        exact List.find?_eq_none.mp found entry member
      rw [answersFor_iff (find?_declares split fresh shares)]
      constructor
      · intro ⟨readable, _⟩
        exact .alone fresh readable
      · intro undisturbed
        cases undisturbed with
        | alone _ readable => exact ⟨readable, rfl, rfl⟩
        | twin inside _ sharing => exact absurd sharing (fresh _ (by simp [inside]))
  | some other =>
      obtain ⟨hit, before, after, inside, unshared⟩ := List.find?_eq_some_iff_append.mp found
      have sharing : SharesName other relPath := declares_iff.mp hit
      have fresh : ∀ entry ∈ before, ¬ SharesName entry relPath := by
        intro entry member
        rw [← declares_iff]
        simpa using unshared entry member
      have whole : kb.chipsets = before ++ other :: (after ++ owner :: later) := by
        rw [split, inside, List.append_assoc]
        rfl
      have first := find?_declares whole fresh sharing
      rw [answersFor_iff first]
      constructor
      · intro ⟨readable, same⟩
        exact .twin inside fresh sharing readable same
      · intro undisturbed
        cases undisturbed with
        | alone none _ => exact absurd sharing (none other (by simp [inside]))
        | @twin before' after' other' inside' fresh' sharing' readable same =>
            have whole' : kb.chipsets = before' ++ other' :: (after' ++ owner :: later) := by
              rw [split, inside', List.append_assoc]
              rfl
            have again := find?_declares whole' fresh' sharing'
            rw [first] at again
            cases again
            exact ⟨readable, same⟩

/-- An exact declaration is answered for exactly when no earlier entry with a file of the
same last component gives another answer. -/
theorem exact_declaration_wins_iff (declared : ∃ entry ∈ kb.chipsets, relPath ∈ entry.firmware) :
    ∃ earlier owner later, kb.chipsets = earlier ++ owner :: later ∧ relPath ∈ owner.firmware ∧
      (∀ entry ∈ earlier, relPath ∉ entry.firmware) ∧
      (AnswersFor kb relPath owner ↔ Undisturbed relPath earlier owner) := by
  obtain ⟨earlier, owner, later, split, exact_, first⟩ := exists_first_exact declared
  exact ⟨earlier, owner, later, split, exact_, first, answersFor_owner_iff split exact_⟩

end Exact

def realtekEntry : KbEntry where
  chipset := some "RTL8188EU"
  firmware := ["rtlwifi/fw.bin"]
  fwPackageDebian := [.str "firmware-realtek"]
  confidence := some "CONFIRMED"

def mediatekEntry : KbEntry where
  chipset := some "MT7601U"
  firmware := ["mediatek/fw.bin"]
  fwPackageDebian := [.str "firmware-mediatek"]
  confidence := some "CONFIRMED"

def mediatekFirst : Kb := ⟨[mediatekEntry, realtekEntry]⟩

theorem exact_declaration_wins_first :
    @AnswersFor asciiInterpreter mediatekFirst "mediatek/fw.bin" mediatekEntry := by
  let _ : Interpreter := asciiInterpreter
  have declared : ∃ entry ∈ mediatekFirst.chipsets, "mediatek/fw.bin".toList ∈ entry.firmware :=
    ⟨mediatekEntry, List.mem_cons_self, by decide⟩
  obtain ⟨earlier, owner, later, split, _, first, answers⟩ := exact_declaration_wins_iff declared
  cases earlier with
  | nil =>
      have same : mediatekEntry = owner := (List.cons.inj split).1
      subst same
      exact answers.mpr (.alone (List.forall_mem_nil _) ⟨⟨_, rfl⟩, _, rfl⟩)
  | cons entry earlier =>
      have same : mediatekEntry = entry := (List.cons.inj split).1
      exact absurd (by decide) (first mediatekEntry (by simp [same]))

/-- A file of the same name in another directory gets the wrong package. -/
theorem shared_name_overtakes :
    "mediatek/fw.bin".toList ∈ mediatekEntry.firmware ∧
      "mediatek/fw.bin".toList ∉ realtekEntry.firmware ∧
      ∃ mapping, @mapFirmwareToPackages asciiInterpreter ⟨[realtekEntry, mediatekEntry]⟩ "mediatek/fw.bin" =
          .ok mapping ∧
        mapping.chipset = some "RTL8188EU".toList ∧ mapping.packages = ["firmware-realtek".toList] :=
  ⟨by decide, by decide, _, rfl, rfl, by decide⟩

end DongleRescue.Firmware
