import DongleRescue.Cli.Main

namespace DongleRescue.Cli

open DongleRescue.Data DongleRescue.Posix DongleRescue.Identification DongleRescue.Diagnostics
open DongleRescue.Repair

/-! What the diagnosis command concludes from the driver links of a host, and how
its plan relates to its diagnosis. -/

/-- An interface node of the device: a sibling named with configuration and number. -/
def IsInterface (device : UsbDevice) (node : Str) : Prop :=
  ∃ configuration number,
    node = device.sysfsPath ++ ':' :: decimal configuration ++ '.' :: decimal number

theorem isInterface_first (device : UsbDevice) : IsInterface device (firstInterface device) :=
  ⟨1, 0, by simp [firstInterface]; decide⟩

def InterfaceBound (host : Host) (device : UsbDevice) : Prop :=
  ∃ node target, IsInterface device node ∧ Usb.DriverLink host node target

def OffersNothing (plan : Plan) : Prop :=
  plan.feasible = false ∧ plan.commands = [] ∧ plan.filesAffected = [] ∧ plan.transaction.isNone

theorem InterfaceBound.of_bound {host : Host} {device : UsbDevice}
    (bound : Usb.Bound host (firstInterface device)) : InterfaceBound host device := by
  obtain ⟨target, link, _⟩ := bound
  exact ⟨_, target, isInterface_first device, link⟩

def linkedHost (links : List (Str × Str)) : Host :=
  tableHost [("/lib/modules/6.8.0/modules.alias", "# aliases\n")] links (links.map Prod.snd)

def interfaceLink : Str × Str :=
  ("/sys/bus/usb/devices/1-2:1.0/driver", "/sys/bus/usb/drivers/rtw_8821cu")

def deviceLink : Str × Str := ("/sys/bus/usb/devices/1-2/driver", "/sys/bus/usb/drivers/usb")

theorem not_interfaceBound_deviceLink : ¬ InterfaceBound (linkedHost [deviceLink]) goldenDevice := by
  intro ⟨node, target, ⟨configuration, number, named⟩, resolved, present⟩
  have otherPath : deviceLink.1 ≠ node ++ "/driver" := by
    intro same
    have split : deviceLink.1 = goldenDevice.sysfsPath ++ "/driver" := rfl
    rw [split, named, List.append_assoc, List.append_assoc] at same
    have rest := List.append_cancel_left same
    cases (List.cons.inj rest).1
  have unlinked : (linkedHost [deviceLink]).resolveRealpath (node ++ "/driver") =
      .ok (node ++ "/driver") :=
    tableHost_resolveRealpath (List.forall_mem_singleton.mpr otherPath)
  rw [unlinked] at resolved
  have same := Except.ok.inj resolved
  have last : target.getLast? = some 'r' := by
    rw [← same, List.getLast?_append_of_ne_nil _ (by simp)]
    rfl
  have absent : ∀ path : Str, path.getLast? ≠ some 'r' → path ≠ target := by
    intro path other sameTarget
    exact other (sameTarget ▸ last)
  have missing : (linkedHost [deviceLink]).exists target = .ok false :=
    tableHost_missing (fun member => absent deviceLink.2 (by decide) (List.mem_singleton.mp member).symm)
      (List.forall_mem_singleton.mpr (absent _ (by decide)))
  rw [missing] at present
  cases present

section Runs

variable [Interpreter] {machine : Machine} {device : UsbDevice} {host : Host} {kb : Kb}
  {release chipOverride : Option Str} {aliasLines : List Str} {res : DiagnosisInput}
  {driver : Option Str} {diagnosis : Diagnosis} {plan : Plan}

omit [Interpreter] in
theorem overrideChip_dev (res : DiagnosisInput) : (overrideChip chipOverride res).dev = res.dev := by
  unfold overrideChip
  split
  · rfl
  · rfl

omit [Interpreter] in
theorem classifyUnbound_device (entry : Option KbEntry) : (classifyUnbound res entry).device = res.dev := by
  unfold classifyUnbound
  split
  · split
    · rfl
    · rfl
  · split
    · split
      · split
        · rfl
        · rfl
      · rfl
    · rfl

omit [Interpreter] in
theorem classifyDriver_device (entry : Option KbEntry) (failures : List (Str × Int)) :
    (classifyDriver res entry driver failures).device = res.dev := by
  unfold classifyDriver
  split
  · exact classifyUnbound_device entry
  · split
    · rfl
    · rfl

namespace Diagnosed

variable (run : Diagnosed machine device host kb release chipOverride aliasLines res driver
  diagnosis plan)
include run

theorem diagnosis_eq :
    diagnosis = if unidentified (overrideChip chipOverride res) = true then
        unknownDevice (overrideChip chipOverride res)
      else classifyDriver (overrideChip chipOverride res)
        (machine.chipsetKb.entryByName (namedChipset device kb chipOverride)) driver [] := by
  have classified := run.classified
  rw [classify_quiet, overrideChip_chipset run.resolved] at classified
  exact (Except.ok.inj classified).symm

/-- A diagnosis is about the device it was asked for. -/
theorem device_eq : diagnosis.device = device := by
  have asked : (overrideChip chipOverride res).dev = device :=
    (overrideChip_dev res).trans (resolveDevice_resolved run.resolved).dev
  rw [run.diagnosis_eq]
  split
  · exact asked
  · exact (classifyDriver_device _ _).trans asked

theorem working_iff :
    diagnosis.state = .aWorking ↔
      ¬ Unidentified device kb aliasLines chipOverride ∧
        (Usb.Bound host (firstInterface device) ∨ Usb.Bound host device.sysfsPath) := by
  rw [run.diagnosis_eq, ← unidentified_iff run.resolved, ← truthy_driverOf_iff run.bound]
  by_cases unnamed : unidentified (overrideChip chipOverride res) = true
  · rw [if_pos unnamed]
    simp only [unnamed, not_true, false_and, iff_false]
    exact DiagnosisState.noConfusion
  · rw [if_neg unnamed, classifyDriver_working_iff]
    simp [unnamed]

theorem recommended_iff :
    (diagnosis.state = .bIdUnbound ∧ diagnosis.recommendedAction.kind = "bind_new_id") ↔
      ¬ Unidentified device kb aliasLines chipOverride ∧
      (¬ Usb.Bound host (firstInterface device) ∧ ¬ Usb.Bound host device.sysfsPath) ∧
      ∃ entry, machine.chipsetKb.entryByName (namedChipset device kb chipOverride) = some entry ∧
        entry.feasible = true ∧
        (deviceRows device aliasLines ≠ [] ∨ hasCapabilityDetail entry = true) := by
  have claims : aliasCandidates (overrideChip chipOverride res) ≠ [] ↔
      deviceRows device aliasLines ≠ [] := by
    rw [aliasCandidates]
    rw [overrideChip_candidates, (resolveDevice_resolved run.resolved).alias_candidates, ne_eq,
      List.map_eq_nil_iff]
  have unbound : truthy driver = false ↔
      ¬ Usb.Bound host (firstInterface device) ∧ ¬ Usb.Bound host device.sysfsPath := by
    rw [← not_or, ← truthy_driverOf_iff run.bound, Bool.not_eq_true]
  rw [run.diagnosis_eq, ← unidentified_iff run.resolved, ← unbound, ← claims]
  by_cases unnamed : unidentified (overrideChip chipOverride res) = true
  · rw [if_pos unnamed]
    simp only [unnamed, not_true, false_and, iff_false]
    exact fun both => DiagnosisState.noConfusion both.1
  · rw [if_neg unnamed, ← classifyDriver_kind_iff]
    constructor
    · intro ⟨_, kind⟩
      exact ⟨unnamed, kind⟩
    · intro ⟨_, kind⟩
      exact ⟨classifyDriver_state_of_kind kind, kind⟩

/-- Whether a plan is offered depends on the knowledge base alone. -/
theorem offersNothing_iff :
    OffersNothing plan ↔
      ∀ entry, findEntry kb device.vid device.pid = some entry → entry.feasible = false := by
  cases planStateB_planned run.planned with
  | unknown missing =>
      rw [missing]
      exact ⟨fun _ _ found => (nomatch found), fun _ => ⟨rfl, rfl, rfl, rfl⟩⟩
  | refused found infeasible =>
      rw [found]
      refine ⟨fun _ other same => ?_, fun _ => ⟨rfl, rfl, rfl, rfl⟩⟩
      cases same
      exact infeasible
  | bind found feasible chosen valid =>
      constructor
      · intro nothing
        cases nothing.1
      · intro infeasible
        rw [infeasible _ found] at feasible
        cases feasible

end Diagnosed

/-- A device reported as working has a bound interface exactly when some interface
is bound, or the device node's own link names no driver, or the device is not
identified at all. -/
theorem working_bound_iff
    (diagnosed : diagnoseOne machine device host kb release chipOverride = .ok (diagnosis, plan)) :
    (diagnosis.state = .aWorking → InterfaceBound host device) ↔
      InterfaceBound host device ∨ ¬ Usb.Bound host device.sysfsPath ∨
        ∃ aliasLines, hostAliasLines host (kernelRelease machine release) = .ok aliasLines ∧
          Unidentified device kb aliasLines chipOverride := by
  obtain ⟨aliasLines, res, driver, run⟩ := diagnoseOne_diagnosed diagnosed
  have working := run.working_iff
  constructor
  · intro needs
    by_cases unnamed : Unidentified device kb aliasLines chipOverride
    · exact .inr (.inr ⟨aliasLines, run.read, unnamed⟩)
    · by_cases node : Usb.Bound host device.sysfsPath
      · exact .inl (needs (working.mpr ⟨unnamed, .inr node⟩))
      · exact .inr (.inl node)
  · intro condition state
    obtain ⟨named, bound⟩ := working.mp state
    rcases condition with interface | unbound | ⟨lines, read, unnamed⟩
    · exact interface
    · exact .of_bound (bound.resolve_right unbound)
    · rw [run.read] at read
      cases read
      exact absurd unnamed named

omit [Interpreter] in
theorem working_bound_iff_interface :
    ∃ diagnosis plan, @diagnoseOne asciiInterpreter bareMachine goldenDevice
        (linkedHost [interfaceLink]) goldenKb none none = .ok (diagnosis, plan) ∧
      (diagnosis.state = .aWorking → InterfaceBound (linkedHost [interfaceLink]) goldenDevice) := by
  refine ⟨_, _, rfl, ?_⟩
  refine (@working_bound_iff asciiInterpreter bareMachine goldenDevice (linkedHost [interfaceLink])
    goldenKb none none _ _ rfl).mpr (.inl ?_)
  exact ⟨_, _, isInterface_first goldenDevice, rfl, rfl⟩

omit [Interpreter] in
/-- The generic driver of the device node makes the device working. -/
theorem device_node_driver_is_working :
    ∃ diagnosis plan, @diagnoseOne asciiInterpreter bareMachine goldenDevice
        (linkedHost [deviceLink]) goldenKb none none = .ok (diagnosis, plan) ∧
      diagnosis.state = .aWorking ∧ ¬ InterfaceBound (linkedHost [deviceLink]) goldenDevice :=
  ⟨_, _, rfl, rfl, not_interfaceBound_deviceLink⟩

/-- A diagnosis without a recommended bind comes with an empty plan exactly when
the device's entry is absent or infeasible, or the bind is recommended after all. -/
theorem plan_only_if_recommended_iff
    (diagnosed : diagnoseOne machine device host kb release chipOverride = .ok (diagnosis, plan)) :
    (diagnosis.state ≠ .bIdUnbound ∨ diagnosis.recommendedAction.kind ≠ "bind_new_id" →
        OffersNothing plan) ↔
      (∀ entry, findEntry kb device.vid device.pid = some entry → entry.feasible = false) ∨
      (∃ aliasLines, hostAliasLines host (kernelRelease machine release) = .ok aliasLines ∧
        ¬ Unidentified device kb aliasLines chipOverride ∧
        (¬ Usb.Bound host (firstInterface device) ∧ ¬ Usb.Bound host device.sysfsPath) ∧
        ∃ entry, machine.chipsetKb.entryByName (namedChipset device kb chipOverride) = some entry ∧
          entry.feasible = true ∧
          (deviceRows device aliasLines ≠ [] ∨ hasCapabilityDetail entry = true)) := by
  obtain ⟨aliasLines, res, driver, run⟩ := diagnoseOne_diagnosed diagnosed
  rw [run.offersNothing_iff]
  have recommended := run.recommended_iff
  constructor
  · intro empty
    by_cases bind : diagnosis.state = .bIdUnbound ∧ diagnosis.recommendedAction.kind = "bind_new_id"
    · exact .inr ⟨aliasLines, run.read, recommended.mp bind⟩
    · exact .inl (empty (not_and_or.mp bind))
  · intro condition other
    rcases condition with infeasible | ⟨lines, read, bind⟩
    · exact infeasible
    · rw [run.read] at read
      cases read
      obtain ⟨state, kind⟩ := recommended.mpr bind
      exact absurd (other.resolve_left (not_not.mpr state)) (not_not.mpr kind)

omit [Interpreter] in
theorem plan_only_if_recommended_iff_uncovered :
    ∃ diagnosis plan, @diagnoseOne asciiInterpreter bareMachine goldenDevice
        (linkedHost [interfaceLink]) ⟨[]⟩ none (some "RTL8811CU") = .ok (diagnosis, plan) ∧
      (diagnosis.state ≠ .bIdUnbound ∨ diagnosis.recommendedAction.kind ≠ "bind_new_id" →
        OffersNothing plan) := by
  refine ⟨_, _, rfl, ?_⟩
  refine (@plan_only_if_recommended_iff asciiInterpreter bareMachine goldenDevice
    (linkedHost [interfaceLink]) ⟨[]⟩ none (some "RTL8811CU") _ _ rfl).mpr (.inl ?_)
  intro entry found
  cases found

omit [Interpreter] in
/-- A working device is offered the commands that bind it. -/
theorem working_device_offered_bind :
    ∃ diagnosis plan, @diagnoseOne asciiInterpreter bareMachine goldenDevice
        (linkedHost [interfaceLink]) goldenKb none none = .ok (diagnosis, plan) ∧
      diagnosis.state = .aWorking ∧ diagnosis.recommendedAction.kind = "no_action" ∧
      plan.feasible = true ∧ plan.commands ≠ [] ∧ ¬ OffersNothing plan := by
  refine ⟨_, _, rfl, rfl, rfl, rfl, ?_, ?_⟩
  · exact List.cons_ne_nil _ _
  · intro nothing
    cases nothing.1

end Runs

end DongleRescue.Cli
