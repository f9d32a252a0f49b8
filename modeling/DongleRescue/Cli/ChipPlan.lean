import DongleRescue.Cli.Commands
import DongleRescue.Repair.Capability
import DongleRescue.Usb.Survey

namespace DongleRescue.Cli

open DongleRescue.Data DongleRescue.Diagnostics DongleRescue.Repair

/-! `repair --chip`: the chip chooses an entry by its name, the device another one by its ids,
and the plan is the device's. -/

section Plans

variable [Interpreter] {machine : Machine} {opts : List (Str × Option Str)} {host : Option Host} {kb : Kb}
  {chip : Str} {own : KbEntry} {device : UsbDevice} {plan : Plan}

/-- The plan of an explicit chip, and its confidence as it is shown. -/
def chipPlan (device : UsbDevice) (kb : Kb) (chip : Str) (entry : KbEntry) : Py (Plan × Str) := do
  let plan ← planStateB device kb none none
  if plan.feasible && !entry.feasible then
    return ({ emptyPlan with
      why := chip ++ " driver rejects dynamic IDs (no_dynamic_id); binding by new_id is not feasible."
      source := "chipsets.json[" ++ chip ++ "]" }, entry.confidence.getD "UNKNOWN")
  else return (plan, formatConfidence plan.confidence)

theorem chipLines_eq (device : UsbDevice) (kb : Kb) (chip : Str) (entry : KbEntry) :
    chipLines device kb chip entry = do
      let (plan, confidence) ← chipPlan device kb chip entry
      return repairLines plan confidence := by
  rw [chipLines, chipPlan]
  cases planStateB device kb none none with
  | error failure => rfl
  | ok plan =>
      simp only [bind, Except.bind]
      split
      · rfl
      · rfl

/-- What the command has read when it has built the plan: the entry of the chip and a device. -/
structure Builds (opts : List (Str × Option Str)) (host : Option Host) (kb : Kb) (chip : Str) (own : KbEntry)
    (device : UsbDevice) (plan : Plan) : Prop where
  asked : optValue opts "--chip" = some chip
  nonempty : chip ≠ []
  named : namedEntry chip kb.chipsets = .ok (some own)
  picked : pickDevice host (optValue opts "--device") = .ok (some device)
  planned : ∃ confidence, chipPlan device kb chip own = .ok (plan, confidence)

/-- The plan that is built is the one that is shown. -/
theorem Builds.answers (builds : Builds opts host kb chip own device plan) :
    ∃ confidence, cmdRepair machine opts host kb = .ok (answerRepair opts (repairLines plan confidence)) := by
  obtain ⟨confidence, planned⟩ := builds.planned
  have asked : truthy (some chip) = true := truthy_iff.mpr ⟨chip, rfl, builds.nonempty⟩
  have lines : chipLines device kb chip own = .ok (repairLines plan confidence) := by
    rw [chipLines_eq, planned]
    rfl
  refine ⟨confidence, ?_⟩
  rw [cmdRepair]
  simp only [builds.asked, asked, if_true, Option.getD_some, builds.named, builds.picked]
  refine Eq.trans ?_ (congrArg (· >>= fun out => .ok (answerRepair opts out)) lines)
  rfl

def listedModules (entry : KbEntry) : List Str :=
  entry.modules.getD [] ++ entry.newIdModules ++ entry.preferredModule.toList

/-- The plan is for the chip: it binds a module that the chip's entry lists, and it is not the one
that the device has from the entry of another chip. -/
structure ForChip (device : UsbDevice) (kb : Kb) (chip : Str) (own : KbEntry) (plan : Plan) : Prop where
  target : plan.feasible = true → ∃ module ∈ listedModules own, NamesDriver device plan module
  foreign : ∀ other, findEntry kb device.vid device.pid = some other → other.chipset ≠ some chip →
    planStateB device kb none none ≠ .ok plan

/-- The ids belong to no entry, to a bindable one that the refusal of the chip replaces, or to the
chip, by a module that its entry lists. -/
def IdsOfChip (device : UsbDevice) (kb : Kb) (chip : Str) (own : KbEntry) : Prop :=
  ∀ other, findEntry kb device.vid device.pid = some other →
    (other.feasible = true ∧ own.feasible = false) ∨
      (other.chipset = some chip ∧ (other.feasible = true →
        ∃ module ∈ listedModules own, chosenModule other none none = some module))

/-- The plan is the device's, or the refusal where the device can be bound and the chip cannot. -/
theorem Builds.plan_cases (builds : Builds opts host kb chip own device plan) :
    (planStateB device kb none none = .ok plan ∧ (plan.feasible = true → own.feasible = true)) ∨
      (plan.feasible = false ∧ own.feasible = false ∧
        ∃ replaced, planStateB device kb none none = .ok replaced ∧ replaced.feasible = true) := by
  obtain ⟨confidence, planned⟩ := builds.planned
  rw [chipPlan] at planned
  obtain ⟨first, planned', planned⟩ := bind_ok planned
  split at planned
  · rename_i refused
    rw [Bool.and_eq_true, Bool.not_eq_true'] at refused
    have same : _ = plan := congrArg Prod.fst (Except.ok.inj planned)
    exact .inr ⟨(congrArg Plan.feasible same).symm, refused.2, first, planned', refused.1⟩
  · rename_i kept
    have same : first = plan := congrArg Prod.fst (Except.ok.inj planned)
    rw [← same]
    exact .inl ⟨planned', fun feasible => by simpa [feasible] using kept⟩

theorem planned_of_found {other : KbEntry} (planned : planStateB device kb none none = .ok plan)
    (found : findEntry kb device.vid device.pid = some other) :
    (plan.feasible = true ↔ other.feasible = true) ∧
      ∀ module, other.feasible = true → (NamesDriver device plan module ↔ chosenModule other none none = some module) := by
  cases planStateB_planned planned with
  | unknown missing =>
      rw [missing] at found
      cases found
  | refused found' infeasible =>
      rw [found] at found'
      cases found'
      refine ⟨by rw [infeasible]; rfl, fun _ feasible => ?_⟩
      rw [infeasible] at feasible
      cases feasible
  | bind found' feasible chosen _ =>
      rw [found] at found'
      cases found'
      refine ⟨by rw [feasible]; rfl, fun module _ => ?_⟩
      rw [namesDriver_bindPlan_iff, chosen, Option.some.injEq]
      exact eq_comm

/-- The plan is for the chip exactly when the ids are. -/
theorem forChip_iff (builds : Builds opts host kb chip own device plan) :
    ForChip device kb chip own plan ↔ IdsOfChip device kb chip own := by
  rcases builds.plan_cases with ⟨planned, kept⟩ | ⟨infeasible, refusing, replaced, planned, bindable⟩
  · constructor
    · intro forChip other found
      obtain ⟨feasible_iff, names_iff⟩ := planned_of_found planned found
      have same : other.chipset = some chip := by
        by_contra foreign
        exact forChip.foreign other found foreign planned
      refine .inr ⟨same, fun feasible => ?_⟩
      obtain ⟨module, listed, names⟩ := forChip.target (feasible_iff.mpr feasible)
      exact ⟨module, listed, (names_iff module feasible).mp names⟩
    · intro ids
      constructor
      · intro feasible
        obtain ⟨other, _, _, _, found, otherFeasible, _⟩ := planStateB_feasible planned feasible
        have ownFeasible := kept feasible
        rcases ids other found with ⟨_, refusing⟩ | ⟨_, chosen⟩
        · rw [ownFeasible] at refusing
          cases refusing
        · obtain ⟨module, listed, chosen⟩ := chosen otherFeasible
          exact ⟨module, listed, ((planned_of_found planned found).2 module otherFeasible).mpr chosen⟩
      · intro other found foreign
        rcases ids other found with ⟨otherFeasible, refusing⟩ | ⟨same, _⟩
        · have ownFeasible := kept ((planned_of_found planned found).1.mpr otherFeasible)
          rw [ownFeasible] at refusing
          cases refusing
        · exact absurd same foreign
  · constructor
    · intro _ other found
      exact .inl ⟨(planned_of_found planned found).1.mp bindable, refusing⟩
    · intro _
      constructor
      · intro feasible
        rw [infeasible] at feasible
        cases feasible
      · intro other _ _ same
        rw [planned, Except.ok.injEq] at same
        rw [same, infeasible] at bindable
        cases bindable

end Plans

def mt7610Entry : KbEntry where
  chipset := some "MT7610U"
  modules := some ["mt76x0u"]
  newIdFeasible := some true
  newIdModules := ["mt76x0u"]
  confidence := some "CONFIRMED"
  usbIds := ["148f:761a"]

def chipOpts (chip : Str) : List (Str × Option Str) := [("--chip", some chip)]

theorem forChip_golden : ∃ device plan, @Builds asciiInterpreter (chipOpts "RTL8811CU") (some (Usb.classedHost "ff\n"))
      goldenKb "RTL8811CU" goldenEntry device plan ∧ plan.feasible = true ∧
    @ForChip asciiInterpreter device goldenKb "RTL8811CU" goldenEntry plan := by
  let _ : Interpreter := asciiInterpreter
  have builds : Builds (chipOpts "RTL8811CU") (some (Usb.classedHost "ff\n")) goldenKb "RTL8811CU" goldenEntry _ _ :=
    ⟨rfl, by decide, rfl, rfl, _, rfl⟩
  refine ⟨_, _, builds, rfl, (forChip_iff builds).mpr fun other found => ?_⟩
  have same : goldenEntry = other := Option.some.inj found
  rw [← same]
  exact .inr ⟨rfl, fun _ => ⟨"rtw_8821cu", by decide, rfl⟩⟩

/-- The chip is another one than the device's, and the plan binds the module of the device. -/
theorem chip_of_other_device : ∃ device plan,
    @Builds asciiInterpreter (chipOpts "MT7610U") (some (Usb.classedHost "ff\n")) ⟨[goldenEntry, mt7610Entry]⟩
      "MT7610U" mt7610Entry device plan ∧
    plan.feasible = true ∧ NamesDriver device plan "rtw_8821cu" ∧ ("rtw_8821cu" : Str) ∉ listedModules mt7610Entry ∧
    findEntry ⟨[goldenEntry, mt7610Entry]⟩ device.vid device.pid = some goldenEntry ∧
    ¬ @ForChip asciiInterpreter device ⟨[goldenEntry, mt7610Entry]⟩ "MT7610U" mt7610Entry plan := by
  let _ : Interpreter := asciiInterpreter
  have builds : Builds (chipOpts "MT7610U") (some (Usb.classedHost "ff\n")) ⟨[goldenEntry, mt7610Entry]⟩ "MT7610U"
      mt7610Entry _ _ := ⟨rfl, by decide, rfl, rfl, _, rfl⟩
  refine ⟨_, _, builds, rfl, ⟨rfl, rfl⟩, by decide, rfl, fun forChip => ?_⟩
  rcases builds.plan_cases with ⟨planned, _⟩ | ⟨infeasible, _⟩
  · exact forChip.foreign goldenEntry rfl (by decide) planned
  · cases infeasible

end DongleRescue.Cli
