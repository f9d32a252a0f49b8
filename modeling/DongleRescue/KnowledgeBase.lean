import DongleRescue.Types

namespace DongleRescue

open DongleRescue.Data

/-! The chipset knowledge base as the program reads it: every key of an entry may
be missing, and every text in it is arbitrary. -/

structure KbEvidence where
  source : Option Str
  detail : Option Str

/-- One chipset entry.  Absent lists read as empty; `modules` keeps the difference
because it is also printed. -/
structure KbEntry where
  chipset : Option Str := none
  family : Option Str := none
  modules : Option (List Str) := none
  preferredModule : Option Str := none
  firmware : List Str := []
  fwPackageDebian : List Json := []
  newIdFeasible : Option Bool := none
  newIdModules : List Str := []
  confidence : Option Str := none
  usbIds : List Str := []
  notes : Option Str := none
  evidence : List KbEvidence := []

structure Kb where
  chipsets : List KbEntry

namespace KbEntry

def name (entry : KbEntry) : Py Str :=
  match entry.chipset with
  | some chipset => .ok chipset
  | none => .error (.keyError "chipset")

def level [Interpreter] (entry : KbEntry) (default : Str) : Py Confidence :=
  Confidence.ofValue (entry.confidence.getD default)

def feasible (entry : KbEntry) : Bool := entry.newIdFeasible.getD false

def lists (entry : KbEntry) (target : Str) : Bool := (entry.usbIds.map lower).contains target

theorem name_ok {entry : KbEntry} {chipset : Str} :
    entry.name = .ok chipset ↔ entry.chipset = some chipset := by
  cases chipset' : entry.chipset <;> simp [name, chipset']

end KbEntry

def Kb.entryById (kb : Kb) (target : Str) : Option KbEntry :=
  kb.chipsets.find? fun entry => entry.lists target

def Kb.entryByName (kb : Kb) (chipset : Str) : Option KbEntry :=
  kb.chipsets.find? fun entry => entry.chipset = some chipset

theorem Kb.entryByName_of_mem {kb : Kb} (distinct : (kb.chipsets.map KbEntry.chipset).Nodup)
    {entry : KbEntry} {chipset : Str} (member : entry ∈ kb.chipsets)
    (named : entry.chipset = some chipset) : kb.entryByName chipset = some entry := by
  cases found : kb.entryByName chipset with
  | none =>
      have absent := List.find?_eq_none.mp found entry member
      simp [named] at absent
  | some other =>
      have otherMember := List.mem_of_find?_eq_some found
      have otherNamed := List.find?_some found
      simp only [decide_eq_true_eq] at otherNamed
      rw [List.inj_on_of_nodup_map distinct otherMember member (otherNamed.trans named.symm)]

/-- Every entry has a name, and a confidence of the scale if it states one. -/
def Kb.SchemaValid (kb : Kb) : Prop :=
  ∀ entry ∈ kb.chipsets, (∃ chipset, entry.chipset = some chipset) ∧
    ∀ text, entry.confidence = some text → ∃ level : Confidence, text = level.value

theorem Kb.SchemaValid.level [Interpreter] {kb : Kb} (schema : kb.SchemaValid) {entry : KbEntry}
    (member : entry ∈ kb.chipsets) (default : Confidence) : ∃ level, entry.level default.value = .ok level := by
  rw [KbEntry.level]
  cases stated : entry.confidence with
  | none => exact ⟨default, Confidence.ofValue_value default⟩
  | some text =>
      obtain ⟨level, same⟩ := (schema entry member).2 text stated
      exact ⟨level, by rw [same]; exact Confidence.ofValue_value level⟩

end DongleRescue
