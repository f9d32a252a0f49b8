import DongleRescue.Firmware.Resolver
import DongleRescue.Identification.Resolver

namespace DongleRescue.Diagnostics

open DongleRescue.Data DongleRescue.Identification DongleRescue.Firmware

/-! Five-state diagnosis classifier.  Priority: unknown device, blocked module,
missing firmware, unbound (with or without a kernel claim), working. -/

/-- What the process itself supplies: the running kernel's release, the packaged
knowledge base and the search path of programs. -/
structure Machine where
  release : Str
  chipsetKb : Kb
  which : Str → Option Str

def bareMachine : Machine where
  release := "6.8.0"
  chipsetKb := ⟨[]⟩
  which := fun _ => none

def lineBlocks (module line : Str) : Bool :=
  let stripped := strip (line.takeWhile (· != '#'))
  decide (stripped = "blacklist " ++ module) || decide (stripped = "install " ++ module ++ " /bin/false")

def blacklisted (module : Option Str) (modprobeD : List (Str × Str)) : Option Str :=
  match module with
  | none | some [] => none
  | some module =>
      ((modprobeD.insertionSort fun left right => textLe left.1 right.1 = true).find?
        fun file => (splitlines file.2).any (lineBlocks module)).map Prod.fst

/-- The declared file of a base name; of several the last one is kept. -/
def declaredAs (firmware : List Str) (base : Str) : Option Str :=
  firmware.reverse.find? fun file => basename file = base

def conclude (res : DiagnosisInput) (state : DiagnosisState) (confidence : Confidence)
    (action : RecommendedAction) (extra : List Evidence := []) : Diagnosis where
  device := res.dev
  identification := res.chipsetId
  driverCandidates := res.candidates
  firmware := []
  state
  confidence
  recommendedAction := action
  evidence := res.chipsetId.evidence ++ extra

def unidentified (res : DiagnosisInput) : Bool :=
  decide (res.chipsetId.chipset = "UNKNOWN") && res.candidates.isEmpty

def unknownDevice (res : DiagnosisInput) : Diagnosis :=
  conclude res .unknownDevice .unknown {
    kind := "manual_chip_id"
    explanation := "The chipset could not be determined with sufficient " ++
      "confidence. Inspect the printed chip marking on the board " ++
      "and rerun with " ++ [Char.ofNat 96] ++ "dongle-rescue identify --chip <name>" ++
      [Char.ofNat 96] ++ "."
    evidence := res.chipsetId.evidence }

def moduleBlocked (res : DiagnosisInput) (primary : Option Str) (blockedBy : Str) : Diagnosis :=
  conclude res .dModuleBlocked .confirmed {
    kind := "unblock_module"
    explanation := formatOption primary ++ " is blocked by " ++ blockedBy ++
      ". Remove or comment the block after verifying why it was added."
    commands := ["# inspect: grep -n '" ++ formatOption primary ++ "' " ++ blockedBy]
    requiresRoot := true
    evidence := res.chipsetId.evidence }

def firmwareMissing (res : DiagnosisInput) (action : RecommendedAction) : Diagnosis :=
  conclude res .cFirmwareMissing .confirmed action action.evidence

def claimedBindable (res : DiagnosisInput) (claiming : Str) : Diagnosis :=
  conclude res .bIdUnbound .highConfidence {
    kind := "bind_new_id"
    explanation := "The claiming driver (" ++ claiming ++ ") accepts dynamic IDs; " ++
      "this device ID can be bound legitimately and persisted."
    evidence := res.chipsetId.evidence }

def claimedRefused (res : DiagnosisInput) : Diagnosis :=
  conclude res .bIdUnbound .highConfidence {
    kind := "diagnose_only"
    explanation := "The claiming driver rejects dynamic IDs (no_dynamic_id=1), so no " ++
      "legitimate local bind exists; use the vendor reference channel for this chipset. " ++
      "The tool points, never forces."
    evidence := res.chipsetId.evidence }

def familyBindable (res : DiagnosisInput) (moduleHint : Str) : Diagnosis :=
  conclude res .bIdUnbound .highConfidence {
    kind := "bind_new_id"
    explanation := res.chipsetId.chipset ++ " is identified and its driver family accepts " ++
      "dynamic IDs; the ID can be bound after loading " ++ moduleHint ++ "."
    evidence := res.chipsetId.evidence }

def familyRefused (res : DiagnosisInput) : Diagnosis :=
  conclude res .bIdUnbound .highConfidence {
    kind := "diagnose_only"
    explanation := "The claiming driver family rejects dynamic IDs (no_dynamic_id=1); " ++
      "no legitimate local bind exists."
    evidence := res.chipsetId.evidence }

def noIntreeDriver (res : DiagnosisInput) : Diagnosis :=
  conclude res .eNoIntreeDriver res.chipsetId.confidence {
    kind := "out_of_tree_pointer"
    explanation := "No in-tree kernel alias claims " ++ res.chipsetId.chipset ++
      " in this kernel tree; in-tree support is not proven. " ++
      "Out-of-tree drivers are never installed automatically."
    evidence := res.chipsetId.evidence }

def firmwareScar (res : DiagnosisInput) : Diagnosis :=
  conclude res .cFirmwareMissing .probable {
    kind := "install_firmware_package"
    explanation := "A firmware request failed on this boot (dmesg); inspect the cited log " ++
      "lines before any reinstall."
    networkRequired := true
    requiresRoot := true
    evidence := res.chipsetId.evidence }

def working (res : DiagnosisInput) (boundDriver : Option Str) : Diagnosis :=
  conclude res .aWorking .confirmed {
    kind := "no_action"
    explanation := formatOption boundDriver ++ " is bound and no failure signature was found."
    evidence := res.chipsetId.evidence }

def aliasCandidates (res : DiagnosisInput) : List DriverCandidate :=
  res.candidates.filter fun candidate => candidate.source = "modules.alias"

def hasCapabilityDetail (entry : KbEntry) : Bool :=
  !entry.newIdModules.isEmpty || truthy entry.preferredModule ||
    decide (entry.newIdFeasible = some false)

def moduleHint (entry : KbEntry) : Str :=
  if truthy entry.preferredModule then entry.preferredModule.getD []
  else entry.newIdModules.headD "the driver"

def classifyUnbound (res : DiagnosisInput) (entry : Option KbEntry) : Diagnosis :=
  match aliasCandidates res with
  | claiming :: _ =>
      if (entry.map KbEntry.feasible).getD false then claimedBindable res claiming.module
      else claimedRefused res
  | [] =>
      match entry with
      | some entry =>
          if hasCapabilityDetail entry then
            if entry.feasible then familyBindable res (moduleHint entry) else familyRefused res
          else noIntreeDriver res
      | none => noIntreeDriver res

def classifyDriver (res : DiagnosisInput) (entry : Option KbEntry) (boundDriver : Option Str)
    (failures : List (Str × Int)) : Diagnosis :=
  if !truthy boundDriver then classifyUnbound res entry
  else if failures ≠ [] then firmwareScar res
  else working res boundDriver

section Classification

variable [Interpreter]

def dmesgFirmwareFailures (dmesgLines : List Str) : Py (List (Str × Int)) := do
  let found ← dmesgLines.mapM lineFailure
  return found.filterMap id

/-- A declared file that the log reports, or the first declared one when it is
absent from an injected host. -/
def missingFile (host : Option Host) (module : Str) (entry : KbEntry)
    (failures : List (Str × Int)) : Py (Option Str) :=
  match failures.findSome? fun failure => declaredAs entry.firmware (basename failure.1) with
  | some file => .ok (some file)
  | none =>
      match host, entry.firmware with
      | some host, rel :: _ => do
          let st ← checkFirmwarePresence host module rel firmwareRoot
          return if st.installed = some false then some rel else none
      | _, _ => .ok none

def missingFirmware (host : Option Host) (module : Str) (entry : Option KbEntry)
    (failures : List (Str × Int)) : Py (Option Str) :=
  match entry with
  | some entry => missingFile host module entry failures
  | none => .ok none

def managersOr (machine : Machine) : Option (List Str) → List Str
  | some (manager :: others) => manager :: others
  | _ => detectPackageManagers machine.which

def classify (machine : Machine) (res : DiagnosisInput) (boundDriver : Option Str)
    (dmesgLines : List Str) (modprobeD : List (Str × Str)) (host : Option Host)
    (managers : Option (List Str)) (kb : Option Kb) : Py Diagnosis := do
  let kb := kb.getD machine.chipsetKb
  let entry := kb.entryByName res.chipsetId.chipset
  let failures ← dmesgFirmwareFailures dmesgLines
  let primary := pyOr boundDriver (res.candidates.head?.map (·.module))
  if unidentified res then return unknownDevice res
  let blockedBy := blacklisted primary modprobeD
  if truthy blockedBy then return moduleBlocked res primary (blockedBy.getD [])
  let module := if truthy primary then primary.getD [] else ['?']
  match ← missingFirmware host module entry failures with
  | some file =>
      let mapping ← mapFirmwareToPackages kb file
      let action ← recommendFirmwareAction {
        module
        normalizedPath := some file
        installed := some false
        foundForm := none
        mapping := some mapping } (managersOr machine managers)
      return firmwareMissing res action
  | none => return classifyDriver res entry boundDriver failures

/-- The four ways to a diagnosis, in the order of their priority. -/
inductive Classified (res : DiagnosisInput) (entry : Option KbEntry) (boundDriver : Option Str)
    (failures : List (Str × Int)) : Diagnosis → Prop where
  | unknown (unnamed : unidentified res = true) :
      Classified res entry boundDriver failures (unknownDevice res)
  | blocked {primary : Option Str} {blockedBy : Str} (named : unidentified res = false) :
      Classified res entry boundDriver failures (moduleBlocked res primary blockedBy)
  | missing {st : FirmwareStatus} {managers : List Str} {action : RecommendedAction}
      (named : unidentified res = false) (recommended : recommendFirmwareAction st managers = .ok action) :
      Classified res entry boundDriver failures (firmwareMissing res action)
  | driver (named : unidentified res = false) :
      Classified res entry boundDriver failures (classifyDriver res entry boundDriver failures)

section Inversion

variable {machine : Machine} {res : DiagnosisInput} {boundDriver : Option Str}
  {dmesgLines : List Str} {modprobeD : List (Str × Str)} {host : Option Host}
  {managers : Option (List Str)} {kb : Option Kb} {diagnosis : Diagnosis}

theorem classify_classified
    (classified : classify machine res boundDriver dmesgLines modprobeD host managers kb =
      .ok diagnosis) :
    ∃ failures, dmesgFirmwareFailures dmesgLines = .ok failures ∧
      Classified res ((kb.getD machine.chipsetKb).entryByName res.chipsetId.chipset) boundDriver
        failures diagnosis := by
  rw [classify] at classified
  simp only at classified
  obtain ⟨failures, read, classified⟩ := bind_ok classified
  refine ⟨failures, read, ?_⟩
  split at classified
  · rename_i unnamed
    have same := Except.ok.inj classified
    subst same
    exact .unknown unnamed
  · rename_i named
    have named : unidentified res = false := by simpa using named
    split at classified
    · have same := Except.ok.inj classified
      subst same
      exact .blocked named
    · obtain ⟨file, _, classified⟩ := bind_ok classified
      cases file with
      | some file =>
          obtain ⟨mapping, _, classified⟩ := bind_ok classified
          obtain ⟨action, recommended, classified⟩ := bind_ok classified
          have same := Except.ok.inj classified
          subst same
          exact .missing named recommended
      | none =>
          have same := Except.ok.inj classified
          subst same
          exact .driver named

/-- Without a log, without blocking files and without a host, only the binding
decides. -/
theorem classify_quiet :
    classify machine res boundDriver [] [] none managers kb =
      .ok (if unidentified res = true then unknownDevice res
        else classifyDriver res ((kb.getD machine.chipsetKb).entryByName res.chipsetId.chipset)
          boundDriver []) := by
  have noFile : ∀ module entry, missingFirmware none module entry [] = .ok none := by
    intro module entry
    cases entry with
    | none => rfl
    | some entry => rfl
  have noBlock : ∀ module, blacklisted module [] = none := by
    intro module
    match module with
    | none => rfl
    | some [] => rfl
    | some (c :: rest) => rfl
  have quiet : dmesgFirmwareFailures [] = .ok [] := rfl
  rw [classify]
  rw [quiet]
  by_cases unnamed : unidentified res = true
  · rw [if_pos unnamed]
    exact if_pos unnamed
  · rw [if_neg unnamed]
    refine (if_neg unnamed).trans ?_
    rw [noBlock]
    simp only [noFile]
    rfl

end Inversion

end Classification

theorem recommendFirmwareAction_kind [Interpreter] {st : FirmwareStatus} {managers : List Str}
    {action : RecommendedAction} (recommended : recommendFirmwareAction st managers = .ok action) :
    action.kind ≠ "bind_new_id" := by
  have present : ("no_action" : Str) ≠ "bind_new_id" := by decide
  have install : ("install_firmware_package" : Str) ≠ "bind_new_id" := by decide
  have lookup : ("manual_package_lookup" : Str) ≠ "bind_new_id" := by decide
  rw [recommendFirmwareAction] at recommended
  simp only at recommended
  split at recommended
  · have same := Except.ok.inj recommended
    subst same
    exact present
  · split at recommended
    · split at recommended
      · obtain ⟨command, _, recommended⟩ := bind_ok recommended
        have same := Except.ok.inj recommended
        subst same
        exact install
      · have same := Except.ok.inj recommended
        subst same
        exact install
    · have same := Except.ok.inj recommended
      subst same
      exact lookup

variable {res : DiagnosisInput} {entry : Option KbEntry} {boundDriver : Option Str}
  {failures : List (Str × Int)}

private theorem refused_ne : ("diagnose_only" : Str) ≠ "bind_new_id" := by decide

private theorem pointer_ne : ("out_of_tree_pointer" : Str) ≠ "bind_new_id" := by decide

theorem classifyUnbound_kind_ne (infeasible : (entry.map KbEntry.feasible).getD false = false) :
    (classifyUnbound res entry).recommendedAction.kind ≠ "bind_new_id" := by
  unfold classifyUnbound
  split
  · rw [infeasible]
    exact refused_ne
  · cases entry with
    | none => exact pointer_ne
    | some found =>
        have infeasible : found.feasible = false := infeasible
        simp only [infeasible, Bool.false_eq_true, if_false]
        split
        · exact refused_ne
        · exact pointer_ne

theorem classifyUnbound_kind_of_feasible {found : KbEntry} (feasible : found.feasible = true) :
    (classifyUnbound res (some found)).recommendedAction.kind = "bind_new_id" ↔
      aliasCandidates res ≠ [] ∨ hasCapabilityDetail found = true := by
  have feasible' : ((some found).map KbEntry.feasible).getD false = true := feasible
  rw [classifyUnbound]
  split
  · rename_i claiming others claims
    rw [feasible']
    exact ⟨fun _ => .inl (by simp [claims]), fun _ => rfl⟩
  · rename_i claims
    simp only [feasible, if_true]
    split
    · rename_i detail
      exact ⟨fun _ => .inr detail, fun _ => rfl⟩
    · rename_i detail
      constructor
      · intro kind
        exact absurd kind pointer_ne
      · intro named
        exact absurd (named.resolve_left (by simp [claims])) detail

/-- An unbound device is to be bound exactly when its entry says it can be, and
either an alias row or the entry itself names a module. -/
theorem classifyUnbound_kind_iff :
    (classifyUnbound res entry).recommendedAction.kind = "bind_new_id" ↔
      ∃ found, entry = some found ∧ found.feasible = true ∧
        (aliasCandidates res ≠ [] ∨ hasCapabilityDetail found = true) := by
  constructor
  · intro kind
    cases entry with
    | none => exact absurd kind (classifyUnbound_kind_ne rfl)
    | some found =>
        cases feasible : found.feasible with
        | false => exact absurd kind (classifyUnbound_kind_ne feasible)
        | true => exact ⟨found, rfl, feasible, (classifyUnbound_kind_of_feasible feasible).mp kind⟩
  · intro ⟨found, same, feasible, named⟩
    rw [same]
    exact (classifyUnbound_kind_of_feasible feasible).mpr named

theorem classifyUnbound_state_of_kind
    (kind : (classifyUnbound res entry).recommendedAction.kind = "bind_new_id") :
    (classifyUnbound res entry).state = .bIdUnbound := by
  obtain ⟨found, same, feasible, named⟩ := classifyUnbound_kind_iff.mp kind
  subst same
  rw [classifyUnbound]
  split
  · split
    · rfl
    · rfl
  · rename_i claims
    have detail : hasCapabilityDetail found = true := named.resolve_left (by simp [claims])
    simp only [detail, feasible, if_true]
    rfl

theorem classifyUnbound_state : (classifyUnbound res entry).state = .bIdUnbound ∨
    (classifyUnbound res entry).state = .eNoIntreeDriver := by
  unfold classifyUnbound
  split
  · split
    · exact .inl rfl
    · exact .inl rfl
  · split
    · split
      · split
        · exact .inl rfl
        · exact .inl rfl
      · exact .inr rfl
    · exact .inr rfl

theorem classifyUnbound_state_ne_working : (classifyUnbound res entry).state ≠ .aWorking := by
  rcases classifyUnbound_state with unbound | unclaimed
  · rw [unbound]
    exact DiagnosisState.noConfusion
  · rw [unclaimed]
    exact DiagnosisState.noConfusion

theorem classifyDriver_working_iff :
    (classifyDriver res entry boundDriver failures).state = .aWorking ↔
      truthy boundDriver = true ∧ failures = [] := by
  rw [classifyDriver]
  cases bound : truthy boundDriver with
  | false =>
      simp only [Bool.not_false, if_true, Bool.false_eq_true, false_and, iff_false]
      exact classifyUnbound_state_ne_working
  | true =>
      simp only [Bool.not_true, Bool.false_eq_true, if_false, true_and]
      split
      · rename_i scar
        exact ⟨fun state => DiagnosisState.noConfusion state, fun clean => absurd clean scar⟩
      · rename_i clean
        exact ⟨fun _ => not_not.mp clean, fun _ => rfl⟩

theorem classifyDriver_kind_iff :
    (classifyDriver res entry boundDriver failures).recommendedAction.kind = "bind_new_id" ↔
      truthy boundDriver = false ∧ ∃ found, entry = some found ∧ found.feasible = true ∧
        (aliasCandidates res ≠ [] ∨ hasCapabilityDetail found = true) := by
  have noAction : ("no_action" : Str) ≠ "bind_new_id" := by decide
  have install : ("install_firmware_package" : Str) ≠ "bind_new_id" := by decide
  rw [classifyDriver]
  cases bound : truthy boundDriver with
  | false =>
      simp only [Bool.not_false, if_true, true_and]
      exact classifyUnbound_kind_iff
  | true =>
      simp only [Bool.not_true, Bool.false_eq_true, if_false]
      constructor
      · intro kind
        split at kind
        · exact absurd kind install
        · exact absurd kind noAction
      · intro ⟨unbound, _⟩
        cases unbound

theorem classifyDriver_state_of_kind
    (kind : (classifyDriver res entry boundDriver failures).recommendedAction.kind = "bind_new_id") :
    (classifyDriver res entry boundDriver failures).state = .bIdUnbound := by
  obtain ⟨unbound, _⟩ := classifyDriver_kind_iff.mp kind
  unfold classifyDriver at kind ⊢
  simp only [unbound, Bool.not_false, if_true] at kind ⊢
  exact classifyUnbound_state_of_kind kind

end DongleRescue.Diagnostics
