import DongleRescue.KnowledgeBase
import DongleRescue.Linux.ModulesAlias

namespace DongleRescue.Identification

open DongleRescue.Data DongleRescue.Linux

/-! Chipset identification: the evidence chain over `modules.alias` and the
knowledge base. -/

structure DiagnosisInput where
  dev : UsbDevice
  chipsetId : ChipsetId
  candidates : List DriverCandidate
  missingLink : Option Str

def kbEntry (kb : Kb) (vid pid : Str) : Option KbEntry := kb.entryById (vid ++ ':' :: pid)

section Resolution

variable [Interpreter]

def sanitize (value : Option Str) : Option Str :=
  match value with
  | none => none
  | some text =>
      let cleaned := text.filter Interpreter.isPrintable
      if cleaned = [] then none else some cleaned

def aliasCandidate (device : UsbDevice) (row : AliasLine) : DriverCandidate where
  module := row.module
  source := "modules.alias"
  confidence := .highConfidence
  evidence := [⟨"modules.alias",
    row.module ++ " claims " ++ formatOption device.modalias ++ ": " ++ strip row.raw⟩]

def kbCandidate (device : UsbDevice) (entry : KbEntry) (module : Str) : Py DriverCandidate := do
  let confidence ← entry.level "PROBABLE"
  let chipset ← entry.name
  return {
    module
    source := "chipsets.json"
    confidence
    evidence := [⟨"chipsets.json", "KB entry " ++ chipset ++ " lists module " ++ module ++
      " for " ++ device.vid ++ ":" ++ device.pid⟩] }

def entryConfidence (rows : List AliasLine) (entry : KbEntry) : Py Confidence :=
  if rows = [] then entry.level "HIGH_CONFIDENCE" else .ok .confirmed

def resolveWithEntry (device : UsbDevice) (rows : List AliasLine) (entry : KbEntry) :
    Py DiagnosisInput := do
  let claimed := rows.map (·.module)
  let listed ← ((entry.modules.getD []).filter fun module => !claimed.contains module).mapM
    (kbCandidate device entry)
  let chipset ← entry.name
  let confidence ← entryConfidence rows entry
  return {
    dev := device
    chipsetId := {
      chipset
      family := entry.family.getD "unknown"
      confidence
      revisionNote := sanitize entry.notes
      evidence := ⟨"data/chipsets.json",
        "VID:PID " ++ device.vid ++ ":" ++ device.pid ++ " -> " ++ chipset⟩ ::
        if rows = [] then [] else [⟨"modules.alias", "kernel alias confirms claim"⟩] }
    candidates := rows.map (aliasCandidate device) ++ listed
    missingLink := if rows = [] then
        some ("VID:PID known to the knowledge base but no kernel alias claims it " ++
          "in this kernel tree — driver may be absent from this kernel")
      else none }

def resolveDevice (device : UsbDevice) (aliasLines : List Str) (kb : Kb) : Py DiagnosisInput :=
  let rows := matchWithLines (device.modalias.getD []) (aliasLines.map .text)
  match kbEntry kb device.vid device.pid with
  | some entry => resolveWithEntry device rows entry
  | none =>
      if rows ≠ [] then
        .ok {
          dev := device
          chipsetId := {
            chipset := "UNKNOWN"
            family := "unknown"
            confidence := .probable
            revisionNote := none
            evidence := [⟨"modules.alias", "kernel claims " ++ device.vid ++ ":" ++ device.pid ++
              " via " ++ join ", " (fromkeys (rows.map (·.module))) ++
              " but the chipset name is not in the knowledge base"⟩] }
          candidates := rows.map (aliasCandidate device)
          missingLink := some "kernel-level claim exists; human-readable chipset name unknown" }
      else
        .ok {
          dev := device
          chipsetId := {
            chipset := "UNKNOWN"
            family := "unknown"
            confidence := .unknown
            revisionNote := none
            evidence := [⟨"modules.alias+chipsets.json", "no alias and no KB entry for " ++
              device.vid ++ ":" ++ device.pid ++ "; manual identification required (SPEC §11)"⟩] }
          candidates := []
          missingLink := some "no evidence at any layer for this VID:PID" }

def unclaimedModules (rows : List AliasLine) (entry : Option KbEntry) : List Str :=
  ((entry.bind KbEntry.modules).getD []).filter fun module => !(rows.map (·.module)).contains module

/-- The parts of a resolution by where they come from. -/
structure Resolved (device : UsbDevice) (rows : List AliasLine) (entry : Option KbEntry)
    (res : DiagnosisInput) : Prop where
  dev : res.dev = device
  named : ∀ found, entry = some found → found.chipset = some res.chipsetId.chipset
  unnamed : entry = none → res.chipsetId.chipset = "UNKNOWN"
  candidates : ∃ listed, res.candidates = rows.map (aliasCandidate device) ++ listed ∧
    listed.map (·.module) = unclaimedModules rows entry ∧
    ∀ candidate ∈ listed, candidate.source = "chipsets.json"

variable {device : UsbDevice} {rows : List AliasLine} {entry : KbEntry} {res : DiagnosisInput}

private theorem kbCandidate_ok {module : Str} {candidate : DriverCandidate}
    (listed : kbCandidate device entry module = .ok candidate) :
    candidate.module = module ∧ candidate.source = "chipsets.json" := by
  rw [kbCandidate] at listed
  obtain ⟨confidence, _, listed⟩ := bind_ok listed
  obtain ⟨chipset, _, listed⟩ := bind_ok listed
  have same := Except.ok.inj listed
  subst same
  exact ⟨rfl, rfl⟩

/-- The chipset, as the entry names it. -/
theorem resolveWithEntry_chipsetId (resolved : resolveWithEntry device rows entry = .ok res) :
    ∃ chipset confidence, entry.name = .ok chipset ∧ entryConfidence rows entry = .ok confidence ∧
      res.chipsetId = {
        chipset
        family := entry.family.getD "unknown"
        confidence
        revisionNote := sanitize entry.notes
        evidence := ⟨"data/chipsets.json",
          "VID:PID " ++ device.vid ++ ":" ++ device.pid ++ " -> " ++ chipset⟩ ::
          if rows = [] then [] else [⟨"modules.alias", "kernel alias confirms claim"⟩] } := by
  unfold resolveWithEntry at resolved
  simp only at resolved
  obtain ⟨_, _, resolved⟩ := bind_ok resolved
  obtain ⟨chipset, named, resolved⟩ := bind_ok resolved
  obtain ⟨confidence, level, resolved⟩ := bind_ok resolved
  have same := Except.ok.inj resolved
  subst same
  exact ⟨chipset, confidence, named, level, rfl⟩

private theorem resolveWithEntry_resolved (resolved : resolveWithEntry device rows entry = .ok res) :
    Resolved device rows (some entry) res := by
  unfold resolveWithEntry at resolved
  simp only at resolved
  obtain ⟨listed, mapped, resolved⟩ := bind_ok resolved
  obtain ⟨chipset, chipsetOk, resolved⟩ := bind_ok resolved
  obtain ⟨confidence, _, resolved⟩ := bind_ok resolved
  have same := Except.ok.inj resolved
  subst same
  refine ⟨rfl, ?_, ?_, listed, rfl, ?_, ?_⟩
  · intro found same
    cases same
    exact KbEntry.name_ok.mp chipsetOk
  · intro absent
    cases absent
  · exact map_of_mapM (fun listed => (kbCandidate_ok listed).1) mapped
  · intro candidate member
    obtain ⟨module, _, produced⟩ := mem_mapM mapped member
    exact (kbCandidate_ok produced).2

def deviceRows (device : UsbDevice) (aliasLines : List Str) : List AliasLine :=
  matchWithLines (device.modalias.getD []) (aliasLines.map .text)

theorem resolveDevice_resolved {aliasLines : List Str} {kb : Kb}
    (resolved : resolveDevice device aliasLines kb = .ok res) :
    Resolved device (deviceRows device aliasLines) (kbEntry kb device.vid device.pid) res := by
  unfold resolveDevice at resolved
  simp only at resolved
  split at resolved
  · rename_i entry found
    rw [found]
    exact resolveWithEntry_resolved resolved
  · rename_i absent
    rw [absent]
    split at resolved
    · have same := Except.ok.inj resolved
      subst same
      exact ⟨rfl, fun _ same => (nomatch same), fun _ => rfl, [],
        (List.append_nil _).symm, rfl, fun _ member => (nomatch member)⟩
    · rename_i noRows
      have same := Except.ok.inj resolved
      subst same
      have noRows : deviceRows device aliasLines = [] := not_not.mp noRows
      rw [noRows]
      exact ⟨rfl, fun _ same => (nomatch same), fun _ => rfl, [], rfl, rfl,
        fun _ member => (nomatch member)⟩

private theorem resolveWithEntry_returns {kb : Kb} (schema : kb.SchemaValid)
    (member : entry ∈ kb.chipsets) : ∃ res, resolveWithEntry device rows entry = .ok res := by
  obtain ⟨chipset, named⟩ := (schema entry member).1
  have name : entry.name = .ok chipset := KbEntry.name_ok.mpr named
  obtain ⟨level, levelOk⟩ : ∃ level, entry.level "PROBABLE" = .ok level :=
    Kb.SchemaValid.level schema member .probable
  have candidate : ∀ module : Str, ∃ found, kbCandidate device entry module = .ok found := by
    intro module
    rw [kbCandidate]
    rw [levelOk, name]
    exact ⟨_, rfl⟩
  have confidence : ∃ level, entryConfidence rows entry = .ok level := by
    rw [entryConfidence]
    split
    · exact Kb.SchemaValid.level schema member .highConfidence
    · exact ⟨_, rfl⟩
  obtain ⟨listed, mapped⟩ : ∃ listed, (unclaimedModules rows (some entry)).mapM
      (kbCandidate device entry) = .ok listed := mapM_returns fun module _ => candidate module
  obtain ⟨overall, overallOk⟩ := confidence
  rw [unclaimedModules, Option.bind_some] at mapped
  unfold resolveWithEntry
  simp only
  rw [mapped, name, overallOk]
  exact ⟨_, rfl⟩

/-- A valid knowledge base never makes a resolution fail. -/
theorem resolveDevice_returns {kb : Kb} (schema : kb.SchemaValid) (aliasLines : List Str) :
    ∃ res, resolveDevice device aliasLines kb = .ok res := by
  unfold resolveDevice
  simp only
  split
  · rename_i entry found
    exact resolveWithEntry_returns schema (List.mem_of_find?_eq_some found)
  · split
    · exact ⟨_, rfl⟩
    · exact ⟨_, rfl⟩

end Resolution

namespace Resolved

variable {device : UsbDevice} {rows : List AliasLine} {res : DiagnosisInput}
  {entry : Option KbEntry} (resolved : Resolved device rows entry res)
include resolved

theorem alias_candidates :
    (res.candidates.filter fun candidate => candidate.source = ("modules.alias" : Str)) =
      rows.map (aliasCandidate device) := by
  obtain ⟨listed, candidates, _, sources⟩ := resolved.candidates
  have rowsKept : (rows.map (aliasCandidate device)).filter
      (fun candidate => decide (candidate.source = ("modules.alias" : Str))) =
        rows.map (aliasCandidate device) := by
    rw [List.filter_eq_self]
    intro candidate member
    obtain ⟨row, _, same⟩ := List.mem_map.mp member
    rw [← same]
    rfl
  have listedDropped : listed.filter
      (fun candidate => decide (candidate.source = ("modules.alias" : Str))) = [] := by
    rw [List.filter_eq_nil_iff]
    intro candidate member
    rw [sources candidate member]
    decide
  rw [candidates, List.filter_append, rowsKept, listedDropped, List.append_nil]

theorem candidates_eq_nil_iff :
    res.candidates = [] ↔ rows = [] ∧ (entry.bind KbEntry.modules).getD [] = [] := by
  obtain ⟨listed, candidates, modules, _⟩ := resolved.candidates
  have listedNil : listed = [] ↔ unclaimedModules rows entry = [] := by
    rw [← modules, List.map_eq_nil_iff]
  rw [candidates, List.append_eq_nil_iff, List.map_eq_nil_iff, listedNil]
  constructor
  · intro ⟨noRows, noModules⟩
    subst noRows
    exact ⟨rfl, by simpa [unclaimedModules] using noModules⟩
  · intro ⟨noRows, noModules⟩
    exact ⟨noRows, by simp [unclaimedModules, noModules]⟩

end Resolved

end DongleRescue.Identification
