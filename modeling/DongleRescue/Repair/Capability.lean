import DongleRescue.Diagnostics.Classifier
import DongleRescue.Repair.Planner

namespace DongleRescue.Repair

open DongleRescue.Data DongleRescue.Identification DongleRescue.Diagnostics

/-! Which driver a plan binds, against what the knowledge base declares capable
of dynamic ids, and which recommended binds can be planned at all. -/

def DeclaresCapable (entry : KbEntry) (driver : Str) : Prop :=
  driver ∈ entry.newIdModules ∨ entry.preferredModule = some driver

instance (entry : KbEntry) (driver : Str) : Decidable (DeclaresCapable entry driver) :=
  inferInstanceAs (Decidable (_ ∨ _))

def NamesDriver (device : UsbDevice) (plan : Plan) (driver : Str) : Prop :=
  plan.commands.head? = some (newIdCommand device.vid device.pid driver) ∧
    plan.persistenceContent = some (aliasLine device.vid device.pid driver)

/-- Whatever driver the plan names, its entry declares capable. -/
def NeverForced (device : UsbDevice) (kb : Kb) (plan : Plan) : Prop :=
  ∀ entry driver, findEntry kb device.vid device.pid = some entry →
    NamesDriver device plan driver → DeclaresCapable entry driver

section Choice

variable {entry : KbEntry} {boundDriver loadedModule : Option Str} {module : Str}

theorem chosenModule_reported (reported : truthy (pyOr boundDriver loadedModule) = true) :
    chosenModule entry boundDriver loadedModule = pyOr boundDriver loadedModule := by
  rw [chosenModule]
  cases bound : truthy boundDriver with
  | true => rw [pyOr_of_truthy bound, pyOr_of_truthy bound]
  | false =>
      rw [pyOr_of_not_truthy bound] at reported
      rw [pyOr_of_not_truthy bound, pyOr_of_not_truthy bound, pyOr_of_truthy reported]

theorem chosenModule_unreported (silent : truthy (pyOr boundDriver loadedModule) = false) :
    chosenModule entry boundDriver loadedModule =
      pyOr entry.preferredModule entry.newIdModules.head? := by
  rw [chosenModule]
  cases bound : truthy boundDriver with
  | true =>
      rw [pyOr_of_truthy bound, bound] at silent
      cases silent
  | false =>
      rw [pyOr_of_not_truthy bound] at silent
      rw [pyOr_of_not_truthy bound, pyOr_of_not_truthy silent]

theorem declaresCapable_of_entry (chosen : pyOr entry.preferredModule entry.newIdModules.head? =
    some module) : DeclaresCapable entry module := by
  cases preferred : truthy entry.preferredModule with
  | true => exact .inr (by rwa [pyOr_of_truthy preferred] at chosen)
  | false =>
      rw [pyOr_of_not_truthy preferred] at chosen
      exact .inl (List.mem_of_head? chosen)

theorem declaresCapable_chosen_iff
    (chosen : chosenModule entry boundDriver loadedModule = some module) :
    DeclaresCapable entry module ↔
      ∀ driver, pyOr boundDriver loadedModule = some driver → driver ≠ [] →
        DeclaresCapable entry driver := by
  cases reported : truthy (pyOr boundDriver loadedModule) with
  | true =>
      rw [chosenModule_reported reported] at chosen
      obtain ⟨text, same, nonempty⟩ := truthy_iff.mp reported
      have sameText : text = module := Option.some.inj (same.symm.trans chosen)
      subst sameText
      constructor
      · intro capable driver found _
        rwa [← Option.some.inj (same.symm.trans found)]
      · intro all
        exact all text same nonempty
  | false =>
      rw [chosenModule_unreported reported] at chosen
      constructor
      · intro _ driver found nonempty
        rw [truthy_iff.mpr ⟨driver, found, nonempty⟩] at reported
        cases reported
      · intro _
        exact declaresCapable_of_entry chosen

end Choice

section Forcing

theorem aliasLine_injective {vid pid first second : Str}
    (same : aliasLine vid pid first = aliasLine vid pid second) : first = second := by
  unfold aliasLine at same
  exact List.append_cancel_left (List.append_cancel_right same)

variable [Interpreter] {device : UsbDevice} {kb : Kb} {boundDriver loadedModule : Option Str}
  {plan : Plan}

theorem namesDriver_bindPlan_iff {module chipset driver : Str} {modules : Option (List Str)}
    {confidence : Confidence} :
    NamesDriver device (bindPlan device.vid device.pid module chipset modules confidence) driver ↔
      driver = module := by
  constructor
  · intro ⟨_, content⟩
    exact (aliasLine_injective (Option.some.inj content)).symm
  · intro same
    subst same
    exact ⟨rfl, rfl⟩

theorem neverForced_bindPlan_iff {entry : KbEntry} {module chipset : Str}
    {modules : Option (List Str)} {confidence : Confidence}
    (found : findEntry kb device.vid device.pid = some entry) :
    NeverForced device kb (bindPlan device.vid device.pid module chipset modules confidence) ↔
      DeclaresCapable entry module := by
  constructor
  · intro never
    exact never entry module found (namesDriver_bindPlan_iff.mpr rfl)
  · intro capable other driver sameEntry names
    rw [namesDriver_bindPlan_iff.mp names, ← Option.some.inj (found.symm.trans sameEntry)]
    exact capable

/-- A feasible plan binds a driver of declared capability exactly when the host
reports no driver, or reports a capable one first. -/
theorem neverForced_iff_reported_capable
    (planned : planStateB device kb boundDriver loadedModule = .ok plan)
    (feasible : plan.feasible = true) :
    NeverForced device kb plan ↔
      ∀ entry driver, findEntry kb device.vid device.pid = some entry →
        pyOr boundDriver loadedModule = some driver → driver ≠ [] →
          DeclaresCapable entry driver := by
  obtain ⟨entry, module, chipset, confidence, found, _, chosen, _, same⟩ :=
    planStateB_feasible planned feasible
  subst plan
  rw [neverForced_bindPlan_iff found, declaresCapable_chosen_iff chosen]
  constructor
  · intro capable other driver sameEntry
    rw [← Option.some.inj (found.symm.trans sameEntry)]
    exact capable driver
  · intro all driver
    exact all entry driver found

omit [Interpreter] in
theorem neverForced_iff_reported_capable_golden :
    NeverForced goldenDevice goldenKb (@goldenPlan asciiInterpreter "rtw_8821cu") := by
  let _ : Interpreter := asciiInterpreter
  have planned : planStateB goldenDevice goldenKb none (some "rtw_8821cu") =
      .ok (goldenPlan "rtw_8821cu") := planStateB_golden rfl (by decide)
  refine (neverForced_iff_reported_capable planned rfl).mpr fun entry driver found reported _ => ?_
  have sameEntry : goldenEntry = entry := Option.some.inj found
  have sameDriver : "rtw_8821cu".toList = driver := Option.some.inj reported
  subst sameEntry sameDriver
  decide

omit [Interpreter] in
/-- The driver that refuses dynamic ids is bound, so it is the one that is forced. -/
theorem golden_bound_driver_forced :
    ∃ plan, @planStateB asciiInterpreter goldenDevice goldenKb (some "rtl8xxxu") none = .ok plan ∧
      plan.feasible = true ∧ NamesDriver goldenDevice plan "rtl8xxxu" ∧
      ¬ DeclaresCapable goldenEntry "rtl8xxxu" ∧ ¬ NeverForced goldenDevice goldenKb plan := by
  let _ : Interpreter := asciiInterpreter
  refine ⟨goldenPlan "rtl8xxxu", planStateB_golden rfl (by decide), rfl, ⟨rfl, rfl⟩, by decide, ?_⟩
  intro never
  exact absurd (never goldenEntry "rtl8xxxu" rfl ⟨rfl, rfl⟩) (by decide)

end Forcing

section Recommendation

variable [Interpreter] {machine : Machine} {device : UsbDevice} {kb : Kb} {entry : KbEntry}
  {aliasLines : List Str} {res : DiagnosisInput} {diagnosis : Diagnosis} {dmesgLines : List Str}
  {modprobeD : List (Str × Str)} {host : Option Host} {managers : Option (List Str)}

theorem feasible_of_recommended
    (classified : classify machine res none dmesgLines modprobeD host managers (some kb) =
      .ok diagnosis)
    (recommended : diagnosis.recommendedAction.kind = "bind_new_id") :
    ∃ entry, kb.entryByName res.chipsetId.chipset = some entry ∧ entry.feasible = true := by
  obtain ⟨failures, _, outcome⟩ := classify_classified classified
  cases outcome with
  | unknown unnamed => exact absurd recommended (by decide : ("manual_chip_id" : Str) ≠ "bind_new_id")
  | blocked named => exact absurd recommended (by decide : ("unblock_module" : Str) ≠ "bind_new_id")
  | missing named action => exact absurd recommended (recommendFirmwareAction_kind action)
  | driver named =>
      obtain ⟨_, entry, found, feasible, _⟩ := classifyDriver_kind_iff.mp recommended
      exact ⟨entry, found, feasible⟩

theorem entryByName_of_resolved (distinct : (kb.chipsets.map KbEntry.chipset).Nodup)
    (resolved : resolveDevice device aliasLines kb = .ok res)
    (found : findEntry kb device.vid device.pid = some entry) :
    kb.entryByName res.chipsetId.chipset = some entry := by
  have listed : kbEntry kb device.vid device.pid = some entry := by
    rw [kbEntry]
    rw [findEntry] at found
    rwa [device.vidHex.2, device.pidHex.2] at found
  have named := (resolveDevice_resolved resolved).named entry listed
  exact Kb.entryByName_of_mem distinct (List.mem_of_find?_eq_some listed) named

/-- A recommended bind can be planned exactly when the knowledge base lists the
device itself, with a module of valid name to bind it to. -/
theorem recommended_bind_planned_iff (schema : kb.SchemaValid)
    (distinct : (kb.chipsets.map KbEntry.chipset).Nodup)
    (resolved : resolveDevice device aliasLines kb = .ok res)
    (classified : classify machine res none dmesgLines modprobeD host managers (some kb) =
      .ok diagnosis)
    (recommended : diagnosis.recommendedAction.kind = "bind_new_id") :
    (∃ plan, planStateB device kb none none = .ok plan ∧ plan.feasible = true) ↔
      ∃ entry module, findEntry kb device.vid device.pid = some entry ∧
        pyOr entry.preferredModule entry.newIdModules.head? = some module ∧
        isModuleName module = true := by
  constructor
  · intro ⟨plan, planned, feasible⟩
    obtain ⟨entry, module, chipset, confidence, found, _, chosen, valid, _⟩ :=
      planStateB_feasible planned feasible
    exact ⟨entry, module, found, chosen, valid⟩
  · intro ⟨entry, module, found, chosen, valid⟩
    obtain ⟨named, byName, feasible⟩ := feasible_of_recommended classified recommended
    rw [entryByName_of_resolved distinct resolved found] at byName
    cases byName
    have member : entry ∈ kb.chipsets := List.mem_of_find?_eq_some found
    obtain ⟨chipset, named⟩ := (schema entry member).1
    obtain ⟨level, levelOk⟩ := Kb.SchemaValid.level schema member .probable
    exact ⟨_, planStateB_eq_bind found feasible chosen valid named levelOk, rfl⟩

omit [Interpreter] in
theorem recommended_bind_planned_golden :
    ∃ plan, @planStateB asciiInterpreter goldenDevice goldenKb none none = .ok plan ∧
      plan.feasible = true := by
  let _ : Interpreter := asciiInterpreter
  have schema : goldenKb.SchemaValid := by
    intro entry member
    rw [List.mem_singleton.mp member]
    exact ⟨⟨_, rfl⟩, fun text same => ⟨.highConfidence, (Option.some.inj same).symm⟩⟩
  exact (@recommended_bind_planned_iff asciiInterpreter bareMachine goldenDevice goldenKb [] _ _
    [] [] none none schema (List.nodup_singleton _) rfl rfl rfl).mpr
      ⟨goldenEntry, "rtw_8821cu", rfl, rfl, by decide⟩

/-- The device and the entry of the shared fixtures that name a chipset as
feasible without a module for it. -/
def ar9271Device : UsbDevice where
  sysfsPath := "/sys/bus/usb/devices/1-2"
  vid := "0cf3"
  pid := "9271"
  bcdDevice := "0108"
  deviceClass := 255
  deviceSubclass := 255
  deviceProtocol := 255
  manufacturer := none
  product := none
  serial := none
  modalias := some "usb:v0CF3p9271d0108dcFFdscFFdpFF"
  vidHex := by decide
  pidHex := by decide
  bcdHex := by decide

def ar9271 : KbEntry where
  chipset := some "AR9271"
  family := some "atheros-wifi"
  modules := some ["ath9k_htc"]
  firmware := ["ath9k_htc/htc_9271-1.4.0.fw"]
  fwPackageDebian := [.str "firmware-atheros"]
  newIdFeasible := some true
  confidence := some "CONFIRMED"
  usbIds := ["0cf3:9271"]

omit [Interpreter] in
/-- The alias row makes the bind recommended; the planner then finds no module. -/
theorem ar9271_bind_not_planned :
    Kb.SchemaValid ⟨[ar9271]⟩ ∧ ∃ res diagnosis,
      @resolveDevice asciiInterpreter ar9271Device
        ["alias usb:v0CF3p9271d*dc*dsc*dp*ic*isc*ip*in* ath9k_htc"] ⟨[ar9271]⟩ = .ok res ∧
      @classify asciiInterpreter bareMachine res none [] [] none none (some ⟨[ar9271]⟩) =
        .ok diagnosis ∧
      diagnosis.recommendedAction.kind = "bind_new_id" ∧
      @planStateB asciiInterpreter ar9271Device ⟨[ar9271]⟩ none none =
        .error (.valueError "feasible chipset without any candidate module") := by
  refine ⟨?_, _, _, rfl, rfl, rfl, rfl⟩
  intro entry member
  rw [List.mem_singleton.mp member]
  exact ⟨⟨_, rfl⟩, fun text same => ⟨.confirmed, (Option.some.inj same).symm⟩⟩

end Recommendation

end DongleRescue.Repair
