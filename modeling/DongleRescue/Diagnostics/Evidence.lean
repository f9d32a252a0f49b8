import DongleRescue.Diagnostics.RejectedLog

namespace DongleRescue.Diagnostics

open DongleRescue.Data DongleRescue.Identification DongleRescue.Firmware

/-! Every conclusion cites evidence, and no action is left to automation. -/

structure Cited (diagnosis : Diagnosis) : Prop where
  concluded : diagnosis.evidence ≠ []
  advised : diagnosis.recommendedAction.evidence ≠ []
  manual : diagnosis.recommendedAction.safeForAutomation = false

section Conclusions

variable {res : DiagnosisInput} {boundDriver : Option Str} {modprobeD : List (Str × Str)}
  {failures : List (Str × Int)} {action : RecommendedAction}

theorem conclude_cited {state : DiagnosisState} {confidence : Confidence} {extra : List Evidence}
    (identified : res.chipsetId.evidence ≠ []) (advised : action.evidence ≠ [])
    (manual : action.safeForAutomation = false) : Cited (conclude res state confidence action extra) where
  concluded := List.append_ne_nil_of_left_ne_nil identified extra
  advised := advised
  manual := manual

theorem closedVerdict_cited (identified : res.chipsetId.evidence ≠ []) :
    Cited (closedVerdict res boundDriver modprobeD) := by
  rw [closedVerdict]
  split
  · apply conclude_cited identified identified rfl
  · apply conclude_cited identified identified rfl

theorem classifyUnbound_cited (identified : res.chipsetId.evidence ≠ []) (entry : Option KbEntry) :
    Cited (classifyUnbound res entry) := by
  unfold classifyUnbound
  split
  · split
    · apply conclude_cited identified identified rfl
    · apply conclude_cited identified identified rfl
  · split
    · split
      · split
        · apply conclude_cited identified identified rfl
        · apply conclude_cited identified identified rfl
      · apply conclude_cited identified identified rfl
    · apply conclude_cited identified identified rfl

theorem classifyDriver_cited (identified : res.chipsetId.evidence ≠ []) (entry : Option KbEntry) :
    Cited (classifyDriver res entry boundDriver failures) := by
  rw [classifyDriver]
  split
  · exact classifyUnbound_cited identified entry
  · split
    · apply conclude_cited identified identified rfl
    · apply conclude_cited identified identified rfl

end Conclusions

section Firmware

variable [Interpreter] {machine : Machine} {managers : Option (List Str)} {kb : Kb}
  {module file : Str} {owner : KbEntry} {action : RecommendedAction}

theorem recommendFirmwareAction_manual {st : FirmwareStatus} {managers : List Str}
    (recommended : recommendFirmwareAction st managers = .ok action) : action.safeForAutomation = false := by
  rw [recommendFirmwareAction] at recommended
  simp only at recommended
  split at recommended
  · cases recommended
    rfl
  · split at recommended
    · split at recommended
      · obtain ⟨command, _, recommended⟩ := bind_ok recommended
        cases recommended
        rfl
      · cases recommended
        rfl
    · cases recommended
      rfl

theorem fileAction_manual (acted : fileAction machine managers kb module file = .ok action) :
    action.safeForAutomation = false := by
  obtain ⟨mapping, _, acted⟩ := bind_ok acted
  exact recommendFirmwareAction_manual acted

omit [Interpreter] in
/-- The last citation of an owned file names the file. -/
theorem Shows.evidence_ne_nil (shows : Shows file action) : action.evidence ≠ [] := by
  obtain ⟨rest, cited⟩ := shows.cited
  intro empty
  rw [empty] at cited
  cases cited

omit [Interpreter] in
theorem supported_managersOr (supported : ∀ manager ∈ managers.getD [], managerCmd manager ≠ none) :
    ∀ manager ∈ managersOr machine managers, managerCmd manager ≠ none := by
  match managers with
  | none => exact fun manager => supported_detected
  | some [] => exact fun manager => supported_detected
  | some (first :: others) => exact supported

/-- A complete owner and a supported manager are all that is asked. -/
theorem fileAction_returns (machine : Machine) (module : Str) (schema : kb.SchemaValid)
    (supported : ∀ manager ∈ managers.getD [], managerCmd manager ≠ none)
    (found : kb.chipsets.find? (declares · file) = some owner) :
    ∃ action, fileAction machine managers kb module file = .ok action := by
  have member := List.mem_of_find?_eq_some found
  obtain ⟨chipset, named⟩ := (schema owner member).1
  obtain ⟨level, levelOk⟩ : ∃ level, owner.level "UNKNOWN" = .ok level := schema.level member .unknown
  cases packages : cleanPkgNames owner.fwPackageDebian with
  | cons package others =>
      have installable : Installable machine managers kb file := by
        refine ⟨owner, chipset, level, found, named, levelOk, by simp [packages], ?_⟩
        intro manager first
        exact supported_managersOr supported manager (List.mem_of_head? first)
      obtain ⟨action, acted, _⟩ := fileAction_of_installable installable
      exact ⟨action, acted⟩
  | nil =>
      rw [fileAction, mapFirmwareToPackages, found]
      simp only [KbEntry.name_ok.mpr named, levelOk, bind, Except.bind, pure, Except.pure, packages]
      rw [recommendFirmwareAction, if_neg (by simp)]
      exact ⟨_, rfl⟩

end Firmware

section Runs

variable [Interpreter] {machine : Machine} {device : UsbDevice} {aliasLines : List Str}
  {res : DiagnosisInput} {boundDriver : Option Str} {dmesgLines : List Str}
  {modprobeD : List (Str × Str)} {host : Option Host} {managers : Option (List Str)} {kb : Kb}
  {failures : List (Str × Int)} {diagnosis : Diagnosis}

theorem resolveDevice_cited (resolved : resolveDevice device aliasLines kb = .ok res) :
    res.chipsetId.evidence ≠ [] := by
  unfold resolveDevice at resolved
  simp only at resolved
  split at resolved
  · obtain ⟨_, _, _, _, same⟩ := resolveWithEntry_chipsetId resolved
    rw [same]
    exact List.cons_ne_nil _ _
  · split at resolved
    · cases resolved
      exact List.cons_ne_nil _ _
    · cases resolved
      exact List.cons_ne_nil _ _

theorem verdict_cited (identified : res.chipsetId.evidence ≠ [])
    (returned : verdict machine res boundDriver modprobeD host managers kb failures = .ok diagnosis) :
    Cited diagnosis := by
  by_cases clear : Clear res boundDriver modprobeD
  · cases missing : missingIn host (shownModule res boundDriver) (kb.entryByName res.chipsetId.chipset) failures with
    | some file =>
        rw [verdict_missing clear missing] at returned
        obtain ⟨action, acted, returned⟩ := bind_ok returned
        cases returned
        obtain ⟨owner, found⟩ := exists_owner_of_missing missing
        have advised := (fileAction_shows found acted).evidence_ne_nil
        exact conclude_cited identified advised (fileAction_manual acted)
    | none =>
        rw [verdict_driver clear missing] at returned
        cases returned
        exact classifyDriver_cited identified _
  · rw [verdict_unclear clear] at returned
    cases returned
    exact closedVerdict_cited identified

theorem verdict_returns (schema : kb.SchemaValid)
    (supported : ∀ manager ∈ managers.getD [], managerCmd manager ≠ none) :
    ∃ diagnosis, verdict machine res boundDriver modprobeD host managers kb failures = .ok diagnosis := by
  by_cases clear : Clear res boundDriver modprobeD
  · cases missing : missingIn host (shownModule res boundDriver) (kb.entryByName res.chipsetId.chipset) failures with
    | some file =>
        obtain ⟨owner, found⟩ := exists_owner_of_missing missing
        obtain ⟨action, acted⟩ := fileAction_returns machine (shownModule res boundDriver) schema supported found
        rw [verdict_missing clear missing, acted]
        exact ⟨_, rfl⟩
    | none =>
        rw [verdict_driver clear missing]
        exact ⟨_, rfl⟩
  · rw [verdict_unclear clear]
    exact ⟨_, rfl⟩

/-- With a valid knowledge base and supported managers a diagnosis is returned as soon as the
log can be read, and whatever is returned cites its evidence. -/
theorem classify_cited (schema : kb.SchemaValid)
    (supported : ∀ manager ∈ managers.getD [], managerCmd manager ≠ none) :
    ∃ res, resolveDevice device aliasLines kb = .ok res ∧
      (∀ diagnosis, classify machine res boundDriver dmesgLines modprobeD host managers (some kb) =
        .ok diagnosis → Cited diagnosis) ∧
      ((∃ failures, dmesgFirmwareFailures dmesgLines = .ok failures) →
        ∃ diagnosis, classify machine res boundDriver dmesgLines modprobeD host managers (some kb) =
          .ok diagnosis) := by
  obtain ⟨res, resolved⟩ : ∃ res, resolveDevice device aliasLines kb = .ok res :=
    resolveDevice_returns schema aliasLines
  refine ⟨res, resolved, fun diagnosis classified => ?_, fun ⟨failures, read⟩ => ?_⟩
  · rw [classify_eq] at classified
    obtain ⟨failures, _, returned⟩ := bind_ok classified
    exact verdict_cited (resolveDevice_cited resolved) returned
  · rw [classify_eq, read]
    exact verdict_returns schema supported

end Runs

theorem schemaValid_mt7601uKb : mt7601uKb.SchemaValid :=
  List.forall_mem_singleton.mpr ⟨⟨_, rfl⟩, fun _ stated => ⟨.confirmed, (Option.some.inj stated).symm⟩⟩

theorem classify_cited_missing :
    ∃ res diagnosis, @resolveDevice asciiInterpreter mt7601uDevice [] mt7601uKb = .ok res ∧
      @classify asciiInterpreter bareMachine res none [failureLine "mt7601u.bin"] [] none (some ["apt"])
        (some mt7601uKb) = .ok diagnosis ∧ diagnosis.state = .cFirmwareMissing ∧ Cited diagnosis := by
  let _ : Interpreter := asciiInterpreter
  have supported : ∀ manager ∈ (some ["apt"] : Option (List Str)).getD [], managerCmd manager ≠ none := by
    decide
  obtain ⟨res, resolved, cited, _⟩ : ∃ res, resolveDevice mt7601uDevice [] mt7601uKb = .ok res ∧
      (∀ diagnosis, classify bareMachine res none [failureLine "mt7601u.bin"] [] none (some ["apt"])
        (some mt7601uKb) = .ok diagnosis → Cited diagnosis) ∧ _ :=
    classify_cited schemaValid_mt7601uKb supported
  cases resolved
  exact ⟨_, _, rfl, rfl, rfl, cited _ rfl⟩

end DongleRescue.Diagnostics
