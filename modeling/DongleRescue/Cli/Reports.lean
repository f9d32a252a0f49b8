import DongleRescue.Cli.Commands
import DongleRescue.Cli.Diagnosis
import DongleRescue.Data.JsonForms
import DongleRescue.Data.JsonLayout

namespace DongleRescue.Cli

open DongleRescue.Data DongleRescue.Diagnostics DongleRescue.Repair

/-! The JSON report: a document that a reader reads back, and that no two diagnoses share. -/

section Keys

theorem distinct_jsonOf (text : Option Str) : (jsonOf text).DistinctKeys := by
  cases text with
  | none => trivial
  | some text => trivial

theorem distinct_list {α : Type} {form : α → Json} (distinct : ∀ datum, (form datum).DistinctKeys)
    (data : List α) : (Json.list (data.map form)).DistinctKeys := by
  rw [Json.DistinctKeys, Json.distinctKeysList_iff, List.forall_mem_map]
  exact fun datum _ => distinct datum

def evidenceKeys : List Str := ["source", "detail"]

def deviceKeys : List Str :=
  ["sysfs_path", "vid", "pid", "bcd_device", "b_device_class", "b_device_subclass", "b_device_protocol",
    "manufacturer", "product", "serial", "modalias"]

def identificationKeys : List Str := ["chipset", "family", "confidence", "revision_note", "evidence"]

def candidateKeys : List Str := ["module", "source", "confidence", "evidence"]

def requirementKeys : List Str := ["module", "firmware_path", "installed", "evidence"]

def actionKeys : List Str :=
  ["kind", "explanation", "commands", "requires_root", "network_required", "safe_for_automation", "evidence"]

def planKeys : List Str := ["feasible", "what", "files_affected", "commands", "transaction_id"]

def reportKeys : List Str :=
  ["schema_version", "device", "identification", "evidence", "driver_candidates", "firmware", "diagnosis",
    "recommended_action", "dry_run_plan"]

theorem distinct_dict {keys : List Str} {items : List (Str × Json)} (distinct : keys.Nodup)
    (named : items.map Prod.fst = keys) (values : ∀ item ∈ items, item.2.DistinctKeys) :
    (Json.dict items).DistinctKeys :=
  ⟨named ▸ distinct, Json.distinctKeysItems_iff.mpr values⟩

theorem distinct_texts (texts : List Str) : (Json.list (texts.map Json.str)).DistinctKeys :=
  distinct_list (fun _ => trivial : ∀ text, (Json.str text).DistinctKeys) texts

theorem distinct_evidence (evidence : Evidence) : evidence.toDict.DistinctKeys := by
  refine distinct_dict (by decide : evidenceKeys.Nodup) rfl ?_
  simp only [List.forall_mem_cons]
  exact ⟨trivial, trivial, List.forall_mem_nil _⟩

theorem distinct_evidenceList (evidence : List Evidence) : (evidenceList evidence).DistinctKeys :=
  distinct_list distinct_evidence evidence

theorem distinct_device (device : UsbDevice) : device.toDict.DistinctKeys := by
  refine distinct_dict (by decide : deviceKeys.Nodup) rfl ?_
  simp only [List.forall_mem_cons]
  exact ⟨trivial, trivial, trivial, trivial, trivial, trivial, trivial, distinct_jsonOf _, distinct_jsonOf _,
    distinct_jsonOf _, distinct_jsonOf _, List.forall_mem_nil _⟩

theorem distinct_identification (chipsetId : ChipsetId) : chipsetId.toDict.DistinctKeys := by
  refine distinct_dict (by decide : identificationKeys.Nodup) rfl ?_
  simp only [List.forall_mem_cons]
  exact ⟨trivial, trivial, trivial, distinct_jsonOf _, distinct_evidenceList _, List.forall_mem_nil _⟩

theorem distinct_candidate (candidate : DriverCandidate) : candidate.toDict.DistinctKeys := by
  refine distinct_dict (by decide : candidateKeys.Nodup) rfl ?_
  simp only [List.forall_mem_cons]
  exact ⟨trivial, trivial, trivial, distinct_evidenceList _, List.forall_mem_nil _⟩

theorem distinct_requirement (requirement : FirmwareRequirement) : requirement.toDict.DistinctKeys := by
  have installed : ((requirement.installed.map Json.bool).getD .null).DistinctKeys := by
    cases requirement.installed with
    | none => trivial
    | some installed => trivial
  refine distinct_dict (by decide : requirementKeys.Nodup) rfl ?_
  simp only [List.forall_mem_cons]
  exact ⟨trivial, trivial, installed, distinct_evidenceList _, List.forall_mem_nil _⟩

theorem distinct_action (action : RecommendedAction) : action.toDict.DistinctKeys := by
  refine distinct_dict (by decide : actionKeys.Nodup) rfl ?_
  simp only [List.forall_mem_cons]
  exact ⟨trivial, trivial, distinct_texts _, trivial, trivial, trivial,
    distinct_evidenceList _, List.forall_mem_nil _⟩

/-- The id that is shown of a plan, if any. -/
def shownId (plan : Plan) : Json := (plan.transaction.map (·.transactionId)).getD .null

theorem distinct_plan {plan : Plan} (id : (shownId plan).DistinctKeys) : (dryRunPlan plan).DistinctKeys := by
  refine distinct_dict (by decide : planKeys.Nodup) rfl ?_
  simp only [List.forall_mem_cons]
  exact ⟨trivial, trivial, distinct_texts _, distinct_texts _, id,
    List.forall_mem_nil _⟩

/-- What the report holds. -/
def report (diagnosis : Diagnosis) (plan : Plan) : Json :=
  .dict (diagnosis.items ++ [(("dry_run_plan" : Str), dryRunPlan plan)])

theorem distinct_report (diagnosis : Diagnosis) {plan : Plan} (id : (shownId plan).DistinctKeys) :
    (report diagnosis plan).DistinctKeys := by
  have conclusion : (["state", "confidence"] : List Str).Nodup := by decide
  refine distinct_dict (by decide : reportKeys.Nodup) rfl ?_
  rw [List.forall_mem_append]
  simp only [Diagnosis.items, List.forall_mem_cons]
  exact ⟨⟨trivial, distinct_device _, distinct_identification _, distinct_evidenceList _,
    distinct_list distinct_candidate _, distinct_list distinct_requirement _,
    ⟨conclusion, trivial, trivial, trivial⟩, distinct_action _, List.forall_mem_nil _⟩, distinct_plan id,
    List.forall_mem_nil _⟩

end Keys

section Digits

/-- The class numbers of the device have texts; nothing else in a report is a long number. -/
structure PrintableClass (device : UsbDevice) : Prop where
  dc : (decimal device.deviceClass.natAbs).length ≤ Json.maxStrDigits
  dsc : (decimal device.deviceSubclass.natAbs).length ≤ Json.maxStrDigits
  dp : (decimal device.deviceProtocol.natAbs).length ≤ Json.maxStrDigits

theorem fits_jsonOf (text : Option Str) : (jsonOf text).fits = true := by
  cases text with
  | none => rfl
  | some text => rfl

theorem fits_list {α : Type} {form : α → Json} (each : ∀ datum, (form datum).fits = true) (data : List α) :
    (Json.list (data.map form)).fits = true := by
  rw [Json.fits_list_iff, List.forall_mem_map]
  exact fun datum _ => each datum

theorem fits_texts (texts : List Str) : (Json.list (texts.map Json.str)).fits = true := fits_list Json.fits_str texts

theorem fits_evidenceList (evidence : List Evidence) : (evidenceList evidence).fits = true :=
  fits_list (fun _ => rfl) evidence

theorem fits_device_iff {device : UsbDevice} : device.toDict.fits = true ↔ PrintableClass device := by
  have numbers : device.toDict.fits = true ↔ (decimal device.deviceClass.natAbs).length ≤ Json.maxStrDigits ∧
      (decimal device.deviceSubclass.natAbs).length ≤ Json.maxStrDigits ∧
      (decimal device.deviceProtocol.natAbs).length ≤ Json.maxStrDigits := by
    simp [UsbDevice.toDict, Json.fits_dict_iff, Json.fits_int_iff, fits_jsonOf]
  rw [numbers]
  exact ⟨fun ⟨dc, dsc, dp⟩ => ⟨dc, dsc, dp⟩, fun printable => ⟨printable.dc, printable.dsc, printable.dp⟩⟩

theorem fits_identification (chipsetId : ChipsetId) : chipsetId.toDict.fits = true := by
  simp [ChipsetId.toDict, Json.fits_dict_iff, fits_jsonOf, fits_evidenceList]

theorem fits_candidate (candidate : DriverCandidate) : candidate.toDict.fits = true := by
  simp [DriverCandidate.toDict, Json.fits_dict_iff, fits_evidenceList]

theorem fits_requirement (requirement : FirmwareRequirement) : requirement.toDict.fits = true := by
  have installed : ((requirement.installed.map Json.bool).getD .null).fits = true := by
    cases requirement.installed with
    | none => rfl
    | some installed => rfl
  simp [FirmwareRequirement.toDict, Json.fits_dict_iff, fits_evidenceList, installed]

theorem fits_action (action : RecommendedAction) : action.toDict.fits = true := by
  simp [RecommendedAction.toDict, Json.fits_dict_iff, fits_texts, fits_evidenceList]

theorem fits_plan {plan : Plan} (id : (shownId plan).fits = true) : (dryRunPlan plan).fits = true := by
  rw [shownId] at id
  simp [dryRunPlan, Json.fits_dict_iff, fits_texts, id]

theorem fits_report_iff (diagnosis : Diagnosis) {plan : Plan} (id : (shownId plan).fits = true) :
    (report diagnosis plan).fits = true ↔ PrintableClass diagnosis.device := by
  have version : (Json.int schemaVersion).fits = true := by decide
  have candidates := fits_list fits_candidate diagnosis.driverCandidates
  have firmware := fits_list fits_requirement diagnosis.firmware
  have conclusion : (Json.dict [("state", .str diagnosis.state.value),
      ("confidence", .str diagnosis.confidence.value)]).fits = true := rfl
  rw [← fits_device_iff, report, Json.fits_dict_iff, List.forall_mem_append]
  simp only [Diagnosis.items, List.forall_mem_cons, List.not_mem_nil, IsEmpty.forall_iff, implies_true]
  simp only [version, fits_identification, fits_evidenceList, candidates, firmware, conclusion, fits_action,
    fits_plan id, true_and, and_true]

end Digits

section Forms

theorem faithful_jsonOf : Json.Faithful jsonOf := by
  intro left right same
  have options : Json.Faithful fun datum : Option Str => (datum.map Json.str).getD .null :=
    Json.faithful_str.option fun _ => Json.noConfusion
  apply options
  cases left with
  | none =>
      cases right with
      | none => exact same
      | some right => exact same
  | some left =>
      cases right with
      | none => exact same
      | some right => exact same

theorem faithful_evidence : Json.Faithful Evidence.toDict := by
  intro left right same
  have values := Json.SameItems.forall₂ (by decide : evidenceKeys.Nodup) rfl rfl same
  simp only [List.forall₂_cons] at values
  obtain ⟨source, detail, _⟩ := values
  cases left
  cases right
  cases source
  cases detail
  rfl

theorem faithful_evidenceList : Json.Faithful evidenceList := faithful_evidence.list

theorem faithful_confidence : Json.Faithful fun confidence : Confidence => Json.str confidence.value := by
  intro left right same
  have texts : left.value = right.value := same
  cases left <;> cases right <;> first | rfl | exact absurd texts (by decide)

theorem faithful_state : Json.Faithful fun state : DiagnosisState => Json.str state.value := by
  intro left right same
  have texts : left.value = right.value := same
  cases left <;> cases right <;> first | rfl | exact absurd texts (by decide)

theorem faithful_device : Json.Faithful UsbDevice.toDict := by
  intro left right same
  have values := Json.SameItems.forall₂ (by decide : deviceKeys.Nodup) rfl rfl same
  simp only [List.forall₂_cons] at values
  obtain ⟨path, vid, pid, bcd, dc, dsc, dp, manufacturer, product, serial, modalias, _⟩ := values
  have manufacturer := faithful_jsonOf manufacturer
  have product := faithful_jsonOf product
  have serial := faithful_jsonOf serial
  have modalias := faithful_jsonOf modalias
  cases left
  cases right
  cases path
  cases vid
  cases pid
  cases bcd
  cases dc
  cases dsc
  cases dp
  cases manufacturer
  cases product
  cases serial
  cases modalias
  rfl

theorem faithful_identification : Json.Faithful ChipsetId.toDict := by
  intro left right same
  have values := Json.SameItems.forall₂ (by decide : identificationKeys.Nodup) rfl rfl same
  simp only [List.forall₂_cons] at values
  obtain ⟨chipset, family, confidence, note, evidence, _⟩ := values
  have confidence := faithful_confidence confidence
  have note := faithful_jsonOf note
  have evidence := faithful_evidenceList evidence
  cases left
  cases right
  cases chipset
  cases family
  cases confidence
  cases note
  cases evidence
  rfl

theorem faithful_candidate : Json.Faithful DriverCandidate.toDict := by
  intro left right same
  have values := Json.SameItems.forall₂ (by decide : candidateKeys.Nodup) rfl rfl same
  simp only [List.forall₂_cons] at values
  obtain ⟨module, source, confidence, evidence, _⟩ := values
  have confidence := faithful_confidence confidence
  have evidence := faithful_evidenceList evidence
  cases left
  cases right
  cases module
  cases source
  cases confidence
  cases evidence
  rfl

theorem faithful_requirement : Json.Faithful FirmwareRequirement.toDict := by
  intro left right same
  have values := Json.SameItems.forall₂ (by decide : requirementKeys.Nodup) rfl rfl same
  simp only [List.forall₂_cons] at values
  obtain ⟨module, path, installed, evidence, _⟩ := values
  have options : Json.Faithful fun installed : Option Bool => (installed.map Json.bool).getD .null :=
    Json.faithful_bool.option fun _ => Json.noConfusion
  have installed := options installed
  have evidence := faithful_evidenceList evidence
  cases left
  cases right
  cases module
  cases path
  cases installed
  cases evidence
  rfl

theorem faithful_action : Json.Faithful RecommendedAction.toDict := by
  intro left right same
  have values := Json.SameItems.forall₂ (by decide : actionKeys.Nodup) rfl rfl same
  simp only [List.forall₂_cons] at values
  obtain ⟨kind, explanation, commands, root, network, automation, evidence, _⟩ := values
  have commands := Json.faithful_str.list commands
  have evidence := faithful_evidenceList evidence
  cases left
  cases right
  cases kind
  cases explanation
  cases commands
  cases root
  cases network
  cases automation
  cases evidence
  rfl

end Forms

section Reports

variable {diagnosis diagnosis' : Diagnosis} {plan plan' : Plan}

/-- The report tells every field of the diagnosis, and what it shows of the plan. -/
theorem eq_of_same_report (same : Json.Same (report diagnosis plan) (report diagnosis' plan')) :
    diagnosis = diagnosis' ∧ Json.Same (dryRunPlan plan) (dryRunPlan plan') := by
  have values := Json.SameItems.forall₂ (by decide : reportKeys.Nodup) rfl rfl same
  simp only [Diagnosis.items, List.cons_append, List.nil_append, List.forall₂_cons] at values
  obtain ⟨_, device, identification, evidence, candidates, firmware, conclusion, action, shown, _⟩ := values
  have conclusion := Json.SameItems.forall₂ (by decide : (["state", "confidence"] : List Str).Nodup) rfl rfl conclusion
  simp only [List.forall₂_cons] at conclusion
  obtain ⟨state, confidence, _⟩ := conclusion
  have device := faithful_device device
  have identification := faithful_identification identification
  have evidence := faithful_evidenceList evidence
  have candidates := faithful_candidate.list candidates
  have firmware := faithful_requirement.list firmware
  have action := faithful_action action
  have state := faithful_state state
  have confidence := faithful_confidence confidence
  refine ⟨?_, shown⟩
  cases diagnosis
  cases diagnosis'
  cases device
  cases identification
  cases evidence
  cases candidates
  cases firmware
  cases action
  cases state
  cases confidence
  rfl

theorem dryRunPlan_eq_of_same {id id' : Option Str} (isText : shownId plan = jsonOf id)
    (isText' : shownId plan' = jsonOf id') (same : Json.Same (dryRunPlan plan) (dryRunPlan plan')) :
    dryRunPlan plan = dryRunPlan plan' := by
  have values := Json.SameItems.forall₂ (by decide : planKeys.Nodup) rfl rfl same
  simp only [List.forall₂_cons] at values
  obtain ⟨feasible, what, files, commands, shown, _⟩ := values
  have ids : Json.Same (shownId plan) (shownId plan') := shown
  rw [isText, isText'] at ids
  have sameId : shownId plan = shownId plan' := by rw [isText, isText', faithful_jsonOf ids]
  have sameFeasible : plan.feasible = plan'.feasible := feasible
  have sameWhat : plan.what = plan'.what := what
  have sameFiles : sortTexts plan.filesAffected = sortTexts plan'.filesAffected := Json.faithful_str.list files
  have sameCommands : plan.commands = plan'.commands := Json.faithful_str.list commands
  rw [shownId, shownId] at sameId
  rw [dryRunPlan, dryRunPlan, sameFeasible, sameWhat, sameFiles, sameCommands, sameId]

variable [Interpreter] {device device' : UsbDevice} {kb kb' : Kb}
  {boundDriver boundDriver' loadedModule loadedModule' : Option Str}

theorem shownId_planned (planned : planStateB device kb boundDriver loadedModule = .ok plan) :
    ∃ id, shownId plan = jsonOf id := by
  cases planStateB_planned planned with
  | unknown missing => exact ⟨none, rfl⟩
  | refused found infeasible => exact ⟨none, rfl⟩
  | bind found feasible chosen valid => exact ⟨some _, rfl⟩

variable {machine machine' : Machine} {host host' : Host} {release release' chip chip' : Option Str}

omit [Interpreter] in
theorem diagnosisJson_ok_iff {text : Str} :
    diagnosisJson diagnosis plan = .ok text ↔
      ∃ dumped, Json.dumpsIndented (report diagnosis plan) = .ok dumped ∧ dumped ++ ['\n'] = text := map_ok_iff

variable {machine machine' : Machine} {host host' : Host} {release release' chip chip' : Option Str}

/-- The report of a run can be printed exactly when the class numbers of the device can. -/
theorem diagnosisJson_returns_iff
    (diagnosed : diagnoseOne machine device host kb release chip = .ok (diagnosis, plan)) :
    (∃ text, diagnosisJson diagnosis plan = .ok text) ↔ PrintableClass device := by
  obtain ⟨_, _, _, run⟩ := diagnoseOne_diagnosed diagnosed
  obtain ⟨id, isText⟩ := shownId_planned run.planned
  have fits : (shownId plan).fits = true := by rw [isText, fits_jsonOf]
  have printable := fits_report_iff diagnosis fits
  rw [run.device_eq] at printable
  rw [← printable]
  simp only [diagnosisJson_ok_iff, Json.dumpsIndented_ok_iff]
  constructor
  · rintro ⟨_, _, ⟨all, _⟩, _⟩
    exact all
  · intro all
    exact ⟨_, _, ⟨all, rfl⟩, rfl⟩

/-- The report of any run is a JSON document that reads back as what was reported, and two runs
print the same one only when they came to the same diagnosis and show the same of their plans. -/
theorem report_faithful {text text' : Str}
    (diagnosed : diagnoseOne machine device host kb release chip = .ok (diagnosis, plan))
    (diagnosed' : diagnoseOne machine' device' host' kb' release' chip' = .ok (diagnosis', plan'))
    (printed : diagnosisJson diagnosis plan = .ok text) (printed' : diagnosisJson diagnosis' plan' = .ok text') :
    Json.readDocument text = some (report diagnosis plan).sortKeys ∧
      (text = text' ↔ diagnosis = diagnosis' ∧ dryRunPlan plan = dryRunPlan plan') := by
  obtain ⟨_, _, _, run⟩ := diagnoseOne_diagnosed diagnosed
  obtain ⟨_, _, _, run'⟩ := diagnoseOne_diagnosed diagnosed'
  obtain ⟨id, isText⟩ := shownId_planned run.planned
  obtain ⟨id', isText'⟩ := shownId_planned run'.planned
  have distinct : (report diagnosis plan).DistinctKeys :=
    distinct_report diagnosis (by rw [isText]; exact distinct_jsonOf id)
  have distinct' : (report diagnosis' plan').DistinctKeys :=
    distinct_report diagnosis' (by rw [isText']; exact distinct_jsonOf id')
  have read : Json.readDocument text = some (report diagnosis plan).sortKeys := by
    obtain ⟨dumped, ok, rfl⟩ := diagnosisJson_ok_iff.mp printed
    exact Json.readDocument_dumpsIndented distinct ok (by decide)
  have read' : Json.readDocument text' = some (report diagnosis' plan').sortKeys := by
    obtain ⟨dumped, ok, rfl⟩ := diagnosisJson_ok_iff.mp printed'
    exact Json.readDocument_dumpsIndented distinct' ok (by decide)
  refine ⟨read, fun same => ?_, fun ⟨sameDiagnosis, samePlan⟩ => ?_⟩
  · rw [same, read', Option.some.injEq] at read
    obtain ⟨sameDiagnosis, samePlan⟩ := eq_of_same_report ((Json.same_iff distinct).mpr read.symm)
    exact ⟨sameDiagnosis, dryRunPlan_eq_of_same isText isText' samePlan⟩
  · rw [diagnosisJson, sameDiagnosis, samePlan] at printed
    exact Except.ok.inj (printed.symm.trans printed')

omit [Interpreter] in
/-- The driver of the interface tells two reports of one device apart. -/
theorem report_faithful_golden :
    let _ : Interpreter := asciiInterpreter
    ∃ diagnosis plan diagnosis' plan' text text',
      diagnoseOne bareMachine goldenDevice (linkedHost [interfaceLink]) goldenKb none none = .ok (diagnosis, plan) ∧
      diagnoseOne bareMachine goldenDevice (linkedHost []) goldenKb none none = .ok (diagnosis', plan') ∧
      diagnosisJson diagnosis plan = .ok text ∧ diagnosisJson diagnosis' plan' = .ok text' ∧
      Json.readDocument text = some (report diagnosis plan).sortKeys ∧ text ≠ text' := by
  intro _
  have bound : diagnoseOne bareMachine goldenDevice (linkedHost [interfaceLink]) goldenKb none none = .ok _ := rfl
  have unbound : diagnoseOne bareMachine goldenDevice (linkedHost []) goldenKb none none = .ok _ := rfl
  have printable : PrintableClass goldenDevice := ⟨by decide, by decide, by decide⟩
  obtain ⟨text, printed⟩ := (diagnosisJson_returns_iff bound).mpr printable
  obtain ⟨text', printed'⟩ := (diagnosisJson_returns_iff unbound).mpr printable
  obtain ⟨read, same⟩ := report_faithful bound unbound printed printed'
  refine ⟨_, _, _, _, text, text', bound, unbound, printed, printed', read, fun sameText => ?_⟩
  have sameState := congrArg Diagnosis.state (same.mp sameText).1
  cases sameState

end Reports

end DongleRescue.Cli
