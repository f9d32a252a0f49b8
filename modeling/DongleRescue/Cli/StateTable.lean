import DongleRescue.Cli.Flags
import DongleRescue.Cli.OneKb

namespace DongleRescue.Cli

open DongleRescue.Data DongleRescue.Identification DongleRescue.Diagnostics DongleRescue.Repair

/-! The state that the diagnosis command shows, read off the host: which alias rows match,
which driver links resolve, and what the packaged knowledge base tells of the chipset. -/

def DriverBound (host : Host) (device : UsbDevice) : Prop :=
  Usb.Bound host (firstInterface device) ∨ Usb.Bound host device.sysfsPath

/-- A row of the running kernel claims the device, or the packaged entry of its chipset says
whether its drivers take dynamic ids. -/
def DriverKnown (machine : Machine) (device : UsbDevice) (kb : Kb) (aliasLines : List Str)
    (chipOverride : Option Str) : Prop :=
  deviceRows device aliasLines ≠ [] ∨
    ∃ entry, machine.chipsetKb.entryByName (namedChipset device kb chipOverride) = some entry ∧
      hasCapabilityDetail entry = true

/-- One row for each state that can be shown.  The log and the module configuration are not
looked at, so no device is found blocked or without firmware. -/
inductive StateTable (machine : Machine) (device : UsbDevice) (host : Host) (kb : Kb)
    (aliasLines : List Str) (chipOverride : Option Str) : DiagnosisState → Prop
  | unknown (unnamed : Unidentified device kb aliasLines chipOverride) :
      StateTable machine device host kb aliasLines chipOverride .unknownDevice
  | working (named : ¬ Unidentified device kb aliasLines chipOverride) (bound : DriverBound host device) :
      StateTable machine device host kb aliasLines chipOverride .aWorking
  | unbound (named : ¬ Unidentified device kb aliasLines chipOverride) (unbound : ¬ DriverBound host device)
      (known : DriverKnown machine device kb aliasLines chipOverride) :
      StateTable machine device host kb aliasLines chipOverride .bIdUnbound
  | unclaimed (named : ¬ Unidentified device kb aliasLines chipOverride) (unbound : ¬ DriverBound host device)
      (unknown : ¬ DriverKnown machine device kb aliasLines chipOverride) :
      StateTable machine device host kb aliasLines chipOverride .eNoIntreeDriver

section Table

variable {machine : Machine} {device : UsbDevice} {host : Host} {kb : Kb} {aliasLines : List Str}
  {release chipOverride : Option Str} {state other : DiagnosisState} {res : DiagnosisInput}
  {driver : Option Str} {diagnosis : Diagnosis} {plan : Plan}

/-- The rows exclude each other. -/
theorem StateTable.unique (one : StateTable machine device host kb aliasLines chipOverride state)
    (two : StateTable machine device host kb aliasLines chipOverride other) : state = other := by
  cases one with
  | unknown unnamed =>
      cases two with
      | unknown _ => rfl
      | working named _ => exact absurd unnamed named
      | unbound named _ _ => exact absurd unnamed named
      | unclaimed named _ _ => exact absurd unnamed named
  | working named bound =>
      cases two with
      | unknown unnamed => exact absurd unnamed named
      | working _ _ => rfl
      | unbound _ unbound _ => exact absurd bound unbound
      | unclaimed _ unbound _ => exact absurd bound unbound
  | unbound named unbound known =>
      cases two with
      | unknown unnamed => exact absurd unnamed named
      | working _ bound => exact absurd bound unbound
      | unbound _ _ _ => rfl
      | unclaimed _ _ unknown => exact absurd known unknown
  | unclaimed named unbound unknown =>
      cases two with
      | unknown unnamed => exact absurd unnamed named
      | working _ bound => exact absurd bound unbound
      | unbound _ _ known => exact absurd known unknown
      | unclaimed _ _ _ => rfl

theorem classifyUnbound_state_eq (entry : Option KbEntry) : (classifyUnbound res entry).state =
    if aliasCandidates res ≠ [] ∨ detailedIn entry = true then .bIdUnbound else .eNoIntreeDriver := by
  cases claims : aliasCandidates res with
  | cons claiming others =>
      have known : claiming :: others ≠ [] ∨ detailedIn entry = true := .inl (List.cons_ne_nil _ _)
      rw [if_pos known, classifyUnbound_claimed claims]
      split
      · rfl
      · rfl
  | nil =>
      rw [classifyUnbound_unclaimed claims]
      cases detailed : detailedIn entry with
      | false =>
          rw [if_neg (by decide), if_neg (by simp)]
          rfl
      | true =>
          rw [if_pos rfl]
          refine Eq.trans ?_ (if_pos (.inr rfl)).symm
          split
          · rfl
          · rfl

theorem detailedIn_iff {entry : Option KbEntry} :
    detailedIn entry = true ↔ ∃ found, entry = some found ∧ hasCapabilityDetail found = true := by
  cases entry with
  | none => simp [detailedIn]
  | some found => simp [detailedIn]

variable [Interpreter]

namespace Diagnosed

variable (run : Diagnosed machine device host kb release chipOverride aliasLines res driver
  diagnosis plan)
include run

theorem stateTable : StateTable machine device host kb aliasLines chipOverride diagnosis.state := by
  have bound : truthy driver = true ↔ DriverBound host device := truthy_driverOf_iff run.bound
  have unnamed : unidentified (overrideChip chipOverride res) = true ↔ _ := unidentified_iff run.resolved
  rw [run.quiet, quietDiagnosis]
  by_cases unknown : unidentified (overrideChip chipOverride res) = true
  · rw [if_pos unknown]
    exact .unknown (unnamed.mp unknown)
  · have named := mt unnamed.mpr unknown
    rw [if_neg unknown, classifyDriver]
    by_cases isBound : truthy driver = true
    · rw [isBound]
      exact .working named (bound.mp isBound)
    · have unbound := mt bound.mpr isBound
      have known : aliasCandidates (overrideChip chipOverride res) ≠ [] ∨ detailedIn
            (machine.chipsetKb.entryByName (overrideChip chipOverride res).chipsetId.chipset) = true ↔
          DriverKnown machine device kb aliasLines chipOverride := by
        rw [run.claimed_iff, detailedIn_iff, overrideChip_chipset run.resolved]
        rfl
      rw [if_pos (by simpa using isBound), classifyUnbound_state_eq]
      split
      · rename_i isKnown
        exact .unbound named unbound (known.mp isKnown)
      · rename_i notKnown
        exact .unclaimed named unbound (mt known.mpr notKnown)

end Diagnosed

variable {runtime : Runtime} {loads : Loads} {journals : Journals} {optKb : Option Kb}
  {journalPath : Option Str} {argv rest : List Str} {cmd text : Str} {code : Nat}

/-- Every answer of the diagnosis command: there is no device, or the first device of the asked
id is shown with the one state of the table. -/
theorem run_diagnose_stateTable (dispatched : (parse argv).positional = cmd :: rest)
    (command : cmd = "diagnose" ∨ cmd = "report")
    (answered : run runtime loads journals (some host) optKb journalPath argv = .ok (code, text)) :
    (pickDevice (some host) (optValue (parse argv).opts "--device") = .ok none ∧ (code, text) = noDevice) ∨
      ∃ device diagnosis plan aliasLines,
        pickDevice (some host) (optValue (parse argv).opts "--device") = .ok (some device) ∧
        code = exitOk ∧ shownDiagnosis (parse argv).opts diagnosis plan = .ok text ∧ diagnosis.device = device ∧
        hostAliasLines host (kernelRelease runtime.toMachine (optValue (parse argv).opts "--kernel-release")) =
          .ok aliasLines ∧
        ∀ state, diagnosis.state = state ↔
          StateTable runtime.toMachine device host (optKb.getD runtime.chipsetKb) aliasLines none state := by
  have diagnosed : cmdDiagnose runtime.toMachine (parse argv).opts (some host) (optKb.getD runtime.chipsetKb) =
      .ok (code, text) := by
    rw [run, dispatched] at answered
    rcases command with rfl | rfl
    · exact answered
    · exact answered
  rw [cmdDiagnose] at diagnosed
  obtain ⟨picked, found, diagnosed⟩ := bind_ok diagnosed
  cases picked with
  | none => exact .inl ⟨found, (Except.ok.inj diagnosed).symm⟩
  | some device =>
      obtain ⟨⟨diagnosis, plan⟩, one, diagnosed⟩ := bind_ok diagnosed
      obtain ⟨shown, printed, diagnosed⟩ := bind_ok diagnosed
      cases diagnosed
      obtain ⟨aliasLines, res, driver, run⟩ := diagnoseOne_diagnosed one
      refine .inr ⟨device, diagnosis, plan, aliasLines, found, rfl, printed, run.device_eq, run.read,
        fun state => ⟨?_, ?_⟩⟩
      · rintro rfl
        exact run.stateTable
      · intro row
        exact run.stateTable.unique row

end Table

/-- The dongle of which a row tells, and that no driver has. -/
theorem run_diagnose_stateTable_golden :
    let _ : Interpreter := asciiInterpreter
    let host := dongleHost goldenAliases
    ∃ text device diagnosis plan,
      run bareRuntime readLoads (fun _ => .decoded none) (some host) (some goldenKb) none ["diagnose"] =
        .ok (exitOk, text) ∧
      pickDevice (some host) none = .ok (some device) ∧ device.vidPid = "0bda:8811" ∧
      shownDiagnosis [] diagnosis plan = .ok text ∧ diagnosis.device = device ∧ diagnosis.state = .bIdUnbound := by
  intro _ host
  have returned : (run bareRuntime readLoads (fun _ => .decoded none) (some host) (some goldenKb) none
      ["diagnose"]).toBool = true := by decide +kernel
  cases answered : run bareRuntime readLoads (fun _ => .decoded none) (some host) (some goldenKb) none
      ["diagnose"] with
  | error failure =>
      rw [answered] at returned
      cases returned
  | ok result =>
      obtain ⟨code, text⟩ := result
      have dongle : pickDevice (some host) none = .ok (some _) := rfl
      rcases @run_diagnose_stateTable host asciiInterpreter bareRuntime readLoads (fun _ => .decoded none)
        (some goldenKb) none ["diagnose"] [] "diagnose" text code rfl (.inl rfl) answered with
        ⟨nobody, _⟩ | ⟨device, diagnosis, plan, aliasLines, picked, ok, printed, asked, read, table⟩
      · cases nobody.symm.trans dongle
      · cases picked.symm.trans dongle
        cases ok
        refine ⟨text, _, diagnosis, plan, rfl, dongle, rfl, printed, asked, (table .bIdUnbound).mpr ?_⟩
        have rows : hostAliasLines host (kernelRelease bareRuntime.toMachine none) = .ok _ := rfl
        cases read.symm.trans rows
        refine .unbound ?_ (fun bound => ?_) (.inl (by decide))
        · exact fun unnamed => absurd unnamed.1 (by decide)
        · have linked : truthy none = true := by
            refine (truthy_driverOf_iff ?_).mpr bound
            rfl
          cases linked

end DongleRescue.Cli
