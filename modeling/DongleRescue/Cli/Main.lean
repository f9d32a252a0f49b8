import DongleRescue.Diagnostics.Classifier
import DongleRescue.Repair.Planner
import DongleRescue.Usb.Enumeration

namespace DongleRescue.Cli

open DongleRescue.Data DongleRescue.Identification DongleRescue.Diagnostics DongleRescue.Repair

/-! The diagnosis command: evidence from the host, one classification and one
dry-run plan beside it. -/

variable [Interpreter]

def kernelRelease (machine : Machine) (release : Option Str) : Str :=
  (pyOr release (some machine.release)).getD []

/-- A failed read of the alias file is not handled here. -/
def hostAliasLines (host : Host) (release : Str) : Py (List Str) :=
  if release = [] then .ok []
  else (Linux.readAliasLines host release).mapError PyError.host

def overrideChip (chipOverride : Option Str) (res : DiagnosisInput) : DiagnosisInput :=
  match chipOverride with
  | some (c :: chip) =>
      { res with
        chipsetId := {
          chipset := c :: chip
          family := "manual"
          confidence := .highConfidence
          revisionNote := none
          evidence := res.chipsetId.evidence } }
  | _ => res

def firstInterface (device : UsbDevice) : Str := device.sysfsPath ++ ":1.0"

def driverOf (host : Host) (device : UsbDevice) : Py (Option Str) := do
  let bound ← Usb.boundDriver host (firstInterface device)
  if truthy bound then return bound
  Usb.boundDriver host device.sysfsPath

def diagnoseOne (machine : Machine) (device : UsbDevice) (host : Host) (kb : Kb)
    (release chipOverride : Option Str) : Py (Diagnosis × Plan) := do
  let aliasLines ← hostAliasLines host (kernelRelease machine release)
  let res ← resolveDevice device aliasLines kb
  let res := overrideChip chipOverride res
  let drv ← driverOf host device
  let diagnosis ← classify machine res drv [] [] none none none
  let plan ← planStateB device kb drv none
  return (diagnosis, plan)

variable {machine : Machine} {device : UsbDevice} {host : Host} {kb : Kb}
  {release chipOverride : Option Str} {diagnosis : Diagnosis} {plan : Plan}

/-- A run that returned, with what each stage gave to the next. -/
structure Diagnosed (machine : Machine) (device : UsbDevice) (host : Host) (kb : Kb)
    (release chipOverride : Option Str) (aliasLines : List Str) (res : DiagnosisInput)
    (driver : Option Str) (diagnosis : Diagnosis) (plan : Plan) : Prop where
  read : hostAliasLines host (kernelRelease machine release) = .ok aliasLines
  resolved : resolveDevice device aliasLines kb = .ok res
  bound : driverOf host device = .ok driver
  classified : classify machine (overrideChip chipOverride res) driver [] [] none none none =
    .ok diagnosis
  planned : planStateB device kb driver none = .ok plan

theorem diagnoseOne_diagnosed
    (diagnosed : diagnoseOne machine device host kb release chipOverride = .ok (diagnosis, plan)) :
    ∃ aliasLines res driver, Diagnosed machine device host kb release chipOverride aliasLines res
      driver diagnosis plan := by
  unfold diagnoseOne at diagnosed
  obtain ⟨aliasLines, read, diagnosed⟩ := bind_ok diagnosed
  obtain ⟨res, resolved, diagnosed⟩ := bind_ok diagnosed
  obtain ⟨driver, bound, diagnosed⟩ := bind_ok diagnosed
  obtain ⟨diagnosis', classified, diagnosed⟩ := bind_ok diagnosed
  obtain ⟨plan', planned, diagnosed⟩ := bind_ok diagnosed
  cases diagnosed
  exact ⟨aliasLines, res, driver, read, resolved, bound, classified, planned⟩

omit [Interpreter] in
theorem truthy_driverOf_iff {driver : Option Str} (bound : driverOf host device = .ok driver) :
    truthy driver = true ↔
      Usb.Bound host (firstInterface device) ∨ Usb.Bound host device.sysfsPath := by
  unfold driverOf at bound
  obtain ⟨first, firstRead, bound⟩ := bind_ok bound
  have firstIff := Usb.truthy_boundDriver_iff firstRead
  cases found : truthy first with
  | true =>
      rw [found] at bound
      have same := Except.ok.inj bound
      subst same
      simp [found, firstIff.mp found]
  | false =>
      rw [found] at bound
      have unbound : ¬ Usb.Bound host (firstInterface device) := by
        rw [← firstIff, found]
        simp
      rw [Usb.truthy_boundDriver_iff bound]
      simp [unbound]

def namedChipset (device : UsbDevice) (kb : Kb) (chipOverride : Option Str) : Str :=
  if truthy chipOverride then chipOverride.getD []
  else ((kbEntry kb device.vid device.pid).bind KbEntry.chipset).getD "UNKNOWN"

/-- No name, no matching row, and no module in the knowledge base. -/
def Unidentified (device : UsbDevice) (kb : Kb) (aliasLines : List Str)
    (chipOverride : Option Str) : Prop :=
  namedChipset device kb chipOverride = "UNKNOWN" ∧ deviceRows device aliasLines = [] ∧
    ((kbEntry kb device.vid device.pid).bind KbEntry.modules).getD [] = []

omit [Interpreter] in
theorem overrideChip_candidates (res : DiagnosisInput) :
    (overrideChip chipOverride res).candidates = res.candidates := by
  unfold overrideChip
  split
  · rfl
  · rfl

theorem overrideChip_chipset {aliasLines : List Str} {res : DiagnosisInput}
    (resolved : resolveDevice device aliasLines kb = .ok res) :
    (overrideChip chipOverride res).chipsetId.chipset = namedChipset device kb chipOverride := by
  have parts := resolveDevice_resolved resolved
  have identified : res.chipsetId.chipset =
      ((kbEntry kb device.vid device.pid).bind KbEntry.chipset).getD "UNKNOWN" := by
    cases found : kbEntry kb device.vid device.pid with
    | none => exact parts.unnamed found
    | some entry =>
        rw [Option.bind_some, parts.named entry found]
        rfl
  match chipOverride with
  | none => exact identified
  | some [] => exact identified
  | some (c :: chip) => rfl

theorem unidentified_iff {aliasLines : List Str} {res : DiagnosisInput}
    (resolved : resolveDevice device aliasLines kb = .ok res) :
    unidentified (overrideChip chipOverride res) = true ↔
      Unidentified device kb aliasLines chipOverride := by
  have parts := resolveDevice_resolved resolved
  unfold unidentified Unidentified
  rw [overrideChip_candidates, overrideChip_chipset resolved, Bool.and_eq_true, decide_eq_true_eq,
    List.isEmpty_iff, parts.candidates_eq_nil_iff]

end DongleRescue.Cli
