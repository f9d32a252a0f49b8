import DongleRescue.Identification.Resolver
import DongleRescue.Posix.Shell

namespace DongleRescue.Identification

open DongleRescue.Data DongleRescue.Linux DongleRescue.Posix

/-! The module fields that become candidates: neither the row grammar nor the knowledge
base holds them to the grammar of module names. -/

/-- No control character, no path separator, and nothing the shell reads. -/
def isHarmless (c : Char) : Bool :=
  decide (0x20 < c.toNat) && decide (c.toNat ≠ 0x7F) && c != '/' && isPlain c

/-- Every candidate is a module name, so that no module field carries anything else. -/
def Guarded (res : DiagnosisInput) : Prop :=
  ∀ candidate ∈ res.candidates,
    isModuleName candidate.module = true ∧ ∀ c ∈ candidate.module, isHarmless c = true

theorem isHarmless_of_moduleName {module : Str} (valid : isModuleName module = true) :
    ∀ c ∈ module, isHarmless c = true := by
  have all : ∀ c ∈ moduleChars, isHarmless c = true := by decide
  exact fun c member => all c (isModuleName_chars valid c member)

theorem guarded_iff {res : DiagnosisInput} :
    Guarded res ↔ ∀ module ∈ res.candidates.map (·.module), isModuleName module = true := by
  rw [List.forall_mem_map]
  constructor
  · intro guarded candidate member
    exact (guarded candidate member).1
  · intro valid candidate member
    exact ⟨valid candidate member, isHarmless_of_moduleName (valid candidate member)⟩

/-- The candidates name the modules of the matching rows and of the entry. -/
theorem Resolved.mem_modules_iff {device : UsbDevice} {rows : List AliasLine} {entry : Option KbEntry}
    {res : DiagnosisInput} (resolved : Resolved device rows entry res) {module : Str} :
    module ∈ res.candidates.map (·.module) ↔
      module ∈ rows.map (·.module) ∨ module ∈ (entry.bind KbEntry.modules).getD [] := by
  obtain ⟨listed, candidates, modules, _⟩ := resolved.candidates
  have claimed : (rows.map (aliasCandidate device)).map (·.module) = rows.map (·.module) := by
    rw [List.map_map]
    rfl
  rw [candidates, List.map_append, claimed, modules, List.mem_append, unclaimedModules, List.mem_filter]
  constructor
  · intro member
    exact member.imp_right And.left
  · intro member
    by_cases claims : module ∈ rows.map (·.module)
    · exact .inl claims
    · exact .inr ⟨member.resolve_left claims, by simpa using claims⟩

variable [Interpreter] {device : UsbDevice} {aliasLines : List Str} {kb : Kb} {res : DiagnosisInput}

/-- The candidates keep to the grammar exactly when the matching rows and the entry do. -/
theorem resolveDevice_guarded_iff (resolved : resolveDevice device aliasLines kb = .ok res) :
    Guarded res ↔ (∀ row ∈ deviceRows device aliasLines, isModuleName row.module = true) ∧
      ∀ entry, kbEntry kb device.vid device.pid = some entry →
        ∀ module ∈ entry.modules.getD [], isModuleName module = true := by
  rw [guarded_iff]
  simp only [(resolveDevice_resolved resolved).mem_modules_iff]
  constructor
  · intro valid
    refine ⟨fun row member => valid _ (.inl (List.mem_map_of_mem member)), fun entry found module listed => ?_⟩
    refine valid module (.inr ?_)
    rw [found, Option.bind_some]
    exact listed
  · intro ⟨rowsValid, entryValid⟩ module member
    rcases member with claimed | listed
    · obtain ⟨row, inRows, same⟩ := List.mem_map.mp claimed
      exact same ▸ rowsValid row inRows
    · cases found : kbEntry kb device.vid device.pid with
      | none =>
          rw [found] at listed
          cases listed
      | some entry =>
          rw [found, Option.bind_some] at listed
          exact entryValid entry found module listed

def traversalRow : Str := "alias usb:* ../../../evil"

omit [Interpreter] in
theorem resolveDevice_guarded_plain :
    ∃ res, @resolveDevice asciiInterpreter goldenDevice ["alias usb:v0BDAp8811* rtw_8821cu"] ⟨[]⟩ = .ok res ∧
      Guarded res := by
  let _ : Interpreter := asciiInterpreter
  have resolved : resolveDevice goldenDevice ["alias usb:v0BDAp8811* rtw_8821cu"] ⟨[]⟩ = .ok _ := rfl
  refine ⟨_, resolved, (resolveDevice_guarded_iff resolved).mpr ⟨by decide, ?_⟩⟩
  intro entry found
  cases found

omit [Interpreter] in
/-- A row of the wild pattern names a path. -/
theorem traversal_is_candidate :
    ∃ res, @resolveDevice asciiInterpreter goldenDevice [traversalRow] ⟨[]⟩ = .ok res ∧
      res.candidates.map (·.module) = ["../../../evil".toList] ∧ ¬ Guarded res := by
  let _ : Interpreter := asciiInterpreter
  refine ⟨_, rfl, rfl, ?_⟩
  rw [guarded_iff]
  decide

end DongleRescue.Identification
