import DongleRescue.Cli.Diagnosis
import DongleRescue.Diagnostics.MissingFirmware

namespace DongleRescue.Cli

open DongleRescue.Data DongleRescue.Identification DongleRescue.Diagnostics DongleRescue.Repair

/-! The diagnosis command is given a knowledge base, and classifies with the packaged
one. -/

def feasibleIn (entry : Option KbEntry) : Bool := (entry.map KbEntry.feasible).getD false

def detailedIn (entry : Option KbEntry) : Bool := (entry.map hasCapabilityDetail).getD false

def hintIn (entry : Option KbEntry) : Str := (entry.map moduleHint).getD []

/-- Two entries the classifier cannot tell apart, for a device that alias rows claim or not. -/
def SameCapability (claimed : Prop) (entry other : Option KbEntry) : Prop :=
  (claimed → feasibleIn entry = feasibleIn other) ∧
    (¬ claimed → detailedIn entry = detailedIn other ∧
      (detailedIn entry = true → feasibleIn entry = feasibleIn other ∧
        (feasibleIn entry = true → hintIn entry = hintIn other)))

section Unbound

variable {res : DiagnosisInput} {entry other : Option KbEntry}

theorem classifyUnbound_claimed {claiming : DriverCandidate} {others : List DriverCandidate}
    (claims : aliasCandidates res = claiming :: others) (entry : Option KbEntry) :
    classifyUnbound res entry =
      if feasibleIn entry then claimedBindable res claiming.module else claimedRefused res := by
  unfold classifyUnbound
  rw [claims]
  rfl

theorem classifyUnbound_unclaimed (claims : aliasCandidates res = []) (entry : Option KbEntry) :
    classifyUnbound res entry =
      if detailedIn entry then if feasibleIn entry then familyBindable res (hintIn entry) else familyRefused res
      else noIntreeDriver res := by
  unfold classifyUnbound
  rw [claims]
  cases entry with
  | none => rfl
  | some entry => rfl

theorem bindable_ne_refused {diagnosis refused : Diagnosis}
    (bind : diagnosis.recommendedAction.kind = "bind_new_id")
    (point : refused.recommendedAction.kind = "diagnose_only") : diagnosis ≠ refused := by
  have kinds : ("bind_new_id" : Str) ≠ "diagnose_only" := by decide
  intro same
  rw [same, point] at bind
  exact kinds bind.symm

theorem familyBindable_inj {hint hint' : Str} (same : familyBindable res hint = familyBindable res hint') :
    hint = hint' := by
  have texts := congrArg (fun diagnosis => diagnosis.recommendedAction.explanation) same
  simp only [familyBindable, conclude] at texts
  exact List.append_cancel_left (List.append_cancel_right texts)

theorem classifyUnbound_eq_iff :
    classifyUnbound res entry = classifyUnbound res other ↔
      SameCapability (aliasCandidates res ≠ []) entry other := by
  have states : DiagnosisState.bIdUnbound ≠ .eNoIntreeDriver := DiagnosisState.noConfusion
  cases claims : aliasCandidates res with
  | cons claiming others =>
      have ne : claimedBindable res claiming.module ≠ claimedRefused res := bindable_ne_refused rfl rfl
      rw [classifyUnbound_claimed claims, classifyUnbound_claimed claims, SameCapability]
      cases feasibleIn entry <;> cases feasibleIn other <;> simp [ne, ne.symm]
  | nil =>
      have ne (hint : Str) : familyBindable res hint ≠ familyRefused res := bindable_ne_refused rfl rfl
      have bind (hint : Str) : familyBindable res hint ≠ noIntreeDriver res :=
        fun same => states (congrArg Diagnosis.state same)
      have refuse : familyRefused res ≠ noIntreeDriver res :=
        fun same => states (congrArg Diagnosis.state same)
      have hints : familyBindable res (hintIn entry) = familyBindable res (hintIn other) ↔
          hintIn entry = hintIn other :=
        ⟨familyBindable_inj, fun same => by rw [same]⟩
      rw [classifyUnbound_unclaimed claims, classifyUnbound_unclaimed claims, SameCapability]
      cases detailedIn entry <;> cases detailedIn other <;> cases feasibleIn entry <;>
        cases feasibleIn other <;> simp [ne, (ne _).symm, bind, (bind _).symm, refuse, refuse.symm, hints]

end Unbound

section Runs

variable [Interpreter] {machine : Machine} {device : UsbDevice} {host : Host} {kb : Kb}
  {release chipOverride : Option Str} {aliasLines : List Str} {res : DiagnosisInput}
  {driver : Option Str} {diagnosis : Diagnosis} {plan : Plan}

/-- The diagnosis by the knowledge base of the run alone. -/
def ownDiagnosis (machine : Machine) (device : UsbDevice) (host : Host) (kb : Kb)
    (release chipOverride : Option Str) : Py Diagnosis := do
  let aliasLines ← hostAliasLines host (kernelRelease machine release)
  let res ← resolveDevice device aliasLines kb
  let drv ← driverOf host device
  classify machine (overrideChip chipOverride res) drv [] [] none none (some kb)

/-- The classifier looks up no entry: the device is unidentified or bound. -/
def AsksNoEntry (device : UsbDevice) (host : Host) (kb : Kb) (aliasLines : List Str)
    (chipOverride : Option Str) : Prop :=
  Unidentified device kb aliasLines chipOverride ∨
    Usb.Bound host (firstInterface device) ∨ Usb.Bound host device.sysfsPath

/-- What a quiet classification concludes with a knowledge base. -/
def quietDiagnosis (res : DiagnosisInput) (driver : Option Str) (kb : Kb) : Diagnosis :=
  if unidentified res then unknownDevice res
  else classifyDriver res (kb.entryByName res.chipsetId.chipset) driver []

omit [Interpreter] in
theorem quietDiagnosis_eq_iff {other : Kb} : quietDiagnosis res driver kb = quietDiagnosis res driver other ↔
    unidentified res = true ∨ truthy driver = true ∨
      SameCapability (aliasCandidates res ≠ []) (kb.entryByName res.chipsetId.chipset)
        (other.entryByName res.chipsetId.chipset) := by
  rw [quietDiagnosis, quietDiagnosis]
  cases unnamed : unidentified res with
  | true => simp
  | false =>
      cases bound : truthy driver with
      | true => simp [classifyDriver, bound]
      | false =>
          rw [← classifyUnbound_eq_iff]
          simp [classifyDriver, bound]

namespace Diagnosed

variable (run : Diagnosed machine device host kb release chipOverride aliasLines res driver
  diagnosis plan)
include run

theorem quiet : diagnosis = quietDiagnosis (overrideChip chipOverride res) driver machine.chipsetKb := by
  have classified := run.classified
  rw [classify_quiet] at classified
  exact (Except.ok.inj classified).symm

theorem own : ownDiagnosis machine device host kb release chipOverride =
    .ok (quietDiagnosis (overrideChip chipOverride res) driver kb) := by
  rw [ownDiagnosis, run.read]
  simp only [bind, Except.bind, run.resolved, run.bound, classify_quiet]
  rfl

theorem asksNoEntry_iff : AsksNoEntry device host kb aliasLines chipOverride ↔
    unidentified (overrideChip chipOverride res) = true ∨ truthy driver = true := by
  rw [AsksNoEntry, unidentified_iff run.resolved, truthy_driverOf_iff run.bound]

theorem claimed_iff : aliasCandidates (overrideChip chipOverride res) ≠ [] ↔ deviceRows device aliasLines ≠ [] := by
  rw [aliasCandidates]
  rw [overrideChip_candidates, (resolveDevice_resolved run.resolved).alias_candidates, ne_eq,
    List.map_eq_nil_iff]

/-- The same run with other packaged data. -/
theorem repackaged (packaged : Kb) :
    diagnoseOne { machine with chipsetKb := packaged } device host kb release chipOverride =
      .ok (quietDiagnosis (overrideChip chipOverride res) driver packaged, plan) := by
  have read : hostAliasLines host (kernelRelease { machine with chipsetKb := packaged } release) = .ok aliasLines :=
    run.read
  rw [diagnoseOne, read]
  simp only [bind, Except.bind, run.resolved, run.bound, classify_quiet, run.planned]
  rfl

end Diagnosed

omit [Interpreter] in
/-- Some packaged data always change what is concluded from an entry. -/
theorem exists_other_diagnosis (named : unidentified res = false) (unbound : truthy driver = false) :
    ∃ packaged other, quietDiagnosis res driver packaged ≠ quietDiagnosis res driver other := by
  let entry : KbEntry := {
    chipset := some res.chipsetId.chipset
    newIdFeasible := some true
    newIdModules := ["driver"] }
  have found : Kb.entryByName ⟨[entry]⟩ res.chipsetId.chipset = some entry := by
    simp [Kb.entryByName, entry]
  have absent : Kb.entryByName ⟨[]⟩ res.chipsetId.chipset = none := rfl
  refine ⟨⟨[]⟩, ⟨[entry]⟩, fun same => ?_⟩
  rw [quietDiagnosis_eq_iff, named, unbound, found, absent] at same
  obtain ⟨claimed, unclaimed⟩ : SameCapability (aliasCandidates res ≠ []) none (some entry) := by
    simpa using same
  by_cases claims : aliasCandidates res = []
  · have detail : false = true := (unclaimed (not_not.mpr claims)).1
    cases detail
  · have feasible : false = true := claimed claims
    cases feasible

/-- The diagnosis is that of the run's own knowledge base exactly when no entry is looked up or the
packaged entry of the chipset says the same; it is free of the packaged data only in the first case. -/
theorem one_kb_iff
    (diagnosed : diagnoseOne machine device host kb release chipOverride = .ok (diagnosis, plan)) :
    (ownDiagnosis machine device host kb release chipOverride = .ok diagnosis ↔
      ∃ aliasLines, hostAliasLines host (kernelRelease machine release) = .ok aliasLines ∧
        (AsksNoEntry device host kb aliasLines chipOverride ∨
          SameCapability (deviceRows device aliasLines ≠ [])
            (kb.entryByName (namedChipset device kb chipOverride))
            (machine.chipsetKb.entryByName (namedChipset device kb chipOverride)))) ∧
    ((∀ packaged, ∃ plan', diagnoseOne { machine with chipsetKb := packaged } device host kb release
        chipOverride = .ok (diagnosis, plan')) ↔
      ∃ aliasLines, hostAliasLines host (kernelRelease machine release) = .ok aliasLines ∧
        AsksNoEntry device host kb aliasLines chipOverride) := by
  obtain ⟨aliasLines, res, driver, run⟩ := diagnoseOne_diagnosed diagnosed
  have only (property : List Str → Prop) :
      (∃ lines, hostAliasLines host (kernelRelease machine release) = .ok lines ∧ property lines) ↔
        property aliasLines := by
    simp [run.read]
  rw [only fun lines => AsksNoEntry device host kb lines chipOverride ∨ _]
  rw [only fun lines => AsksNoEntry device host kb lines chipOverride]
  constructor
  · rw [run.own, Except.ok.injEq, run.quiet, quietDiagnosis_eq_iff, run.asksNoEntry_iff,
      run.claimed_iff, overrideChip_chipset run.resolved, or_assoc]
  · rw [run.asksNoEntry_iff]
    constructor
    · intro free
      by_contra asks
      obtain ⟨unnamed, bound⟩ := not_or.mp asks
      have named : unidentified (overrideChip chipOverride res) = false := by simpa using unnamed
      have unbound : truthy driver = false := by simpa using bound
      obtain ⟨packaged, other, different⟩ := exists_other_diagnosis named unbound
      have same (packaged : Kb) :
          quietDiagnosis (overrideChip chipOverride res) driver packaged = diagnosis := by
        obtain ⟨plan', again⟩ := free packaged
        rw [run.repackaged packaged] at again
        exact congrArg Prod.fst (Except.ok.inj again)
      exact different ((same packaged).trans (same other).symm)
    · intro quiet packaged
      refine ⟨plan, ?_⟩
      rw [run.repackaged packaged, run.quiet, quietDiagnosis_eq_iff.mpr]
      rcases quiet with unnamed | bound
      · exact .inl unnamed
      · exact .inr (.inl bound)

end Runs

def goldenMachine : Machine := { bareMachine with chipsetKb := goldenKb }

theorem one_kb_iff_packaged :
    ∃ diagnosis plan, @diagnoseOne asciiInterpreter goldenMachine goldenDevice (linkedHost []) goldenKb none
        none = .ok (diagnosis, plan) ∧
      @ownDiagnosis asciiInterpreter goldenMachine goldenDevice (linkedHost []) goldenKb none none =
        .ok diagnosis := by
  let _ : Interpreter := asciiInterpreter
  have diagnosed : diagnoseOne goldenMachine goldenDevice (linkedHost []) goldenKb none none =
      .ok (_, goldenPlan "rtw_8821cu") := rfl
  refine ⟨_, _, diagnosed, (one_kb_iff diagnosed).1.mpr ⟨_, rfl, .inr ?_⟩⟩
  exact ⟨fun _ => rfl, fun _ => ⟨rfl, fun _ => ⟨rfl, fun _ => rfl⟩⟩⟩

/-- A chipset only the given knowledge base covers: planned as bindable, diagnosed as unsupported. -/
theorem packaged_kb_diagnoses :
    ∃ diagnosis plan own, @diagnoseOne asciiInterpreter goldenMachine mt7601uDevice (linkedHost []) mt7601uKb
        none none = .ok (diagnosis, plan) ∧
      @ownDiagnosis asciiInterpreter goldenMachine mt7601uDevice (linkedHost []) mt7601uKb none none = .ok own ∧
      diagnosis.state = .eNoIntreeDriver ∧ own.state = .bIdUnbound ∧ plan.feasible = true := by
  let _ : Interpreter := asciiInterpreter
  let plan := bindPlan "148f" "7601" "mt7601u" "MT7601U" (some ["mt7601u"]) .confirmed
  have diagnosed : diagnoseOne goldenMachine mt7601uDevice (linkedHost []) mt7601uKb none none =
      .ok (_, plan) := rfl
  have owned : ownDiagnosis goldenMachine mt7601uDevice (linkedHost []) mt7601uKb none none = .ok _ := rfl
  exact ⟨_, plan, _, diagnosed, owned, rfl, rfl, rfl⟩

end DongleRescue.Cli
