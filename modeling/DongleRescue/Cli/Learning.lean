import DongleRescue.Cli.StateTable
import DongleRescue.Identification.Confirmation

namespace DongleRescue.Cli

open DongleRescue.Data DongleRescue.Identification DongleRescue.Diagnostics DongleRescue.Repair

/-! More evidence never makes a diagnosis know less: a kernel with more alias rows, a longer
knowledge base, or a driver that is bound meanwhile. -/

/-- How much a state says of the device; the two that no row of the table reaches say nothing. -/
def knowledge : DiagnosisState → Nat
  | .aWorking => 3
  | .bIdUnbound => 2
  | .eNoIntreeDriver => 1
  | .unknownDevice | .cFirmwareMissing | .dModuleBlocked => 0

def certainty : Confidence → Nat
  | .confirmed => 4
  | .highConfidence => 3
  | .probable => 2
  | .possible => 1
  | .unknown => 0

structure MoreEvidence (device : UsbDevice) (machine machine' : Machine) (host host' : Host) (kb kb' : Kb)
    (aliasLines aliasLines' : List Str) : Prop where
  rows : aliasLines ⊆ aliasLines'
  kb : kb.chipsets <+: kb'.chipsets
  packaged : machine.chipsetKb.chipsets <+: machine'.chipsetKb.chipsets
  bound : DriverBound host device → DriverBound host' device

structure KnowsMore (first second : Diagnosis) : Prop where
  state : knowledge first.state ≤ knowledge second.state
  chipset : first.identification.chipset ≠ "UNKNOWN" →
    second.identification.chipset = first.identification.chipset
  certainty : certainty first.identification.confidence ≤ certainty second.identification.confidence
  rows : ∀ candidate ∈ first.driverCandidates, candidate.source = "modules.alias" →
    candidate ∈ second.driverCandidates
  modules : ∀ candidate ∈ first.driverCandidates, ∃ other ∈ second.driverCandidates,
    other.module = candidate.module

section Knowledge

variable {kb kb' : Kb} {target : Str} {entry : KbEntry} {device : UsbDevice} {aliasLines aliasLines' : List Str}

theorem find?_of_prefix {α : Type} {first second : List α} {hit : α → Bool} {found : α} (grows : first <+: second)
    (search : first.find? hit = some found) : second.find? hit = some found := by
  obtain ⟨more, rfl⟩ := grows
  rw [List.find?_append, search]
  rfl

theorem deviceRows_subset (rows : aliasLines ⊆ aliasLines') :
    deviceRows device aliasLines ⊆ deviceRows device aliasLines' := by
  intro row member
  rw [mem_deviceRows] at member ⊢
  obtain ⟨normalized, accepted, claims, line, inLines, parsed⟩ := member
  exact ⟨normalized, accepted, claims, line, rows inLines, parsed⟩

theorem deviceRows_ne_nil (rows : aliasLines ⊆ aliasLines') (claimed : deviceRows device aliasLines ≠ []) :
    deviceRows device aliasLines' ≠ [] := by
  obtain ⟨row, member⟩ := List.exists_mem_of_ne_nil _ claimed
  exact List.ne_nil_of_mem (deviceRows_subset rows member)

end Knowledge

section Conclusions

variable {res : DiagnosisInput} {driver : Option Str} {kb : Kb}

/-- Every conclusion shows the resolution it was made from. -/
theorem quietDiagnosis_shows :
    (quietDiagnosis res driver kb).identification = res.chipsetId ∧
      (quietDiagnosis res driver kb).driverCandidates = res.candidates := by
  unfold quietDiagnosis classifyDriver classifyUnbound
  split
  · exact ⟨rfl, rfl⟩
  · split
    · split
      · split
        · exact ⟨rfl, rfl⟩
        · exact ⟨rfl, rfl⟩
      · split
        · split
          · split
            · exact ⟨rfl, rfl⟩
            · exact ⟨rfl, rfl⟩
          · exact ⟨rfl, rfl⟩
        · exact ⟨rfl, rfl⟩
    · exact ⟨rfl, rfl⟩

end Conclusions

section Resolutions

variable [Interpreter] {device : UsbDevice} {kb kb' : Kb} {aliasLines aliasLines' : List Str}
  {res res' : DiagnosisInput} {entry : KbEntry}

theorem resolveDevice_confidence (resolved : resolveDevice device aliasLines kb = .ok res) :
    (∀ entry, kbEntry kb device.vid device.pid = some entry →
      entryConfidence (deviceRows device aliasLines) entry = .ok res.chipsetId.confidence) ∧
    (kbEntry kb device.vid device.pid = none →
      res.chipsetId.confidence = if deviceRows device aliasLines = [] then .unknown else .probable) := by
  unfold resolveDevice at resolved
  simp only at resolved
  split at resolved
  · rename_i entry found
    obtain ⟨_, confidence, _, level, shown⟩ := resolveWithEntry_chipsetId resolved
    refine ⟨fun other same => ?_, fun absent => ?_⟩
    · cases found.symm.trans same
      rw [shown]
      exact level
    · cases found.symm.trans absent
  · rename_i absent
    refine ⟨fun other found => ?_, fun _ => ?_⟩
    · cases absent.symm.trans found
    · split at resolved
      · rename_i claimed
        cases resolved
        exact (if_neg claimed).symm
      · rename_i unclaimed
        cases resolved
        exact (if_pos (not_not.mp unclaimed)).symm

omit [Interpreter] in
theorem certainty_le_confirmed (confidence : Confidence) : certainty confidence ≤ certainty .confirmed := by
  cases confidence <;> decide

theorem certainty_mono (grows : kb.chipsets <+: kb'.chipsets) (rows : aliasLines ⊆ aliasLines')
    (resolved : resolveDevice device aliasLines kb = .ok res)
    (resolved' : resolveDevice device aliasLines' kb' = .ok res') :
    certainty res.chipsetId.confidence ≤ certainty res'.chipsetId.confidence := by
  obtain ⟨named, unnamed⟩ := resolveDevice_confidence resolved
  obtain ⟨named', unnamed'⟩ := resolveDevice_confidence resolved'
  -- Where rows claim the device for an entry, the later resolution is confirmed.
  have confirmed : ∀ entry, kbEntry kb' device.vid device.pid = some entry → deviceRows device aliasLines' ≠ [] →
      certainty res.chipsetId.confidence ≤ certainty res'.chipsetId.confidence := by
    intro entry found claimed
    have level := named' entry found
    rw [entryConfidence, if_neg claimed] at level
    rw [← Except.ok.inj level]
    exact certainty_le_confirmed _
  cases found : kbEntry kb device.vid device.pid with
  | some entry =>
      have found' : kbEntry kb' device.vid device.pid = some entry := find?_of_prefix grows found
      by_cases claimed : deviceRows device aliasLines' = []
      · have unclaimed : deviceRows device aliasLines = [] :=
          not_not.mp fun claims => deviceRows_ne_nil rows claims claimed
        have level := named entry found
        have level' := named' entry found'
        rw [unclaimed] at level
        rw [claimed, level] at level'
        rw [Except.ok.inj level']
      · exact confirmed entry found' claimed
  | none =>
      rw [unnamed found]
      by_cases unclaimed : deviceRows device aliasLines = []
      · rw [if_pos unclaimed]
        exact Nat.zero_le _
      · have claimed := deviceRows_ne_nil rows unclaimed
        cases found' : kbEntry kb' device.vid device.pid with
        | some entry =>
            rw [← unnamed found]
            exact confirmed entry found' claimed
        | none => rw [unnamed' found', if_neg unclaimed, if_neg claimed]

theorem modules_iff (resolved : resolveDevice device aliasLines kb = .ok res) {module : Str} :
    (∃ candidate ∈ res.candidates, candidate.module = module) ↔
      (∃ row ∈ deviceRows device aliasLines, row.module = module) ∨
        ∃ entry, kbEntry kb device.vid device.pid = some entry ∧ module ∈ entry.modules.getD [] := by
  obtain ⟨listed, split, unclaimed, _⟩ := (resolveDevice_resolved resolved).candidates
  have fromRows : (∃ candidate ∈ (deviceRows device aliasLines).map (aliasCandidate device), candidate.module = module) ↔
      ∃ row ∈ deviceRows device aliasLines, row.module = module := by
    simp [aliasCandidate]
  have fromEntry : (∃ candidate ∈ listed, candidate.module = module) ↔
      module ∈ unclaimedModules (deviceRows device aliasLines) (kbEntry kb device.vid device.pid) := by
    rw [← unclaimed, List.mem_map]
  have parts : (∃ candidate ∈ res.candidates, candidate.module = module) ↔
      (∃ row ∈ deviceRows device aliasLines, row.module = module) ∨
        module ∈ unclaimedModules (deviceRows device aliasLines) (kbEntry kb device.vid device.pid) := by
    rw [split, ← fromRows, ← fromEntry]
    simp only [List.mem_append, or_and_right, exists_or]
  rw [parts, unclaimedModules, List.mem_filter]
  cases found : kbEntry kb device.vid device.pid with
  | none => simp
  | some entry =>
      by_cases claimed : ∃ row ∈ deviceRows device aliasLines, row.module = module
      · exact iff_of_true (.inl claimed) (.inl claimed)
      · simp only [claimed, false_or, Option.bind_some, Option.some.injEq, exists_eq_left']
        simpa using fun _ => not_exists.mp claimed

end Resolutions

section Runs

variable [Interpreter] {machine machine' : Machine} {device : UsbDevice} {host host' : Host} {kb kb' : Kb}
  {release release' chipOverride : Option Str} {aliasLines aliasLines' : List Str} {res res' : DiagnosisInput}
  {driver driver' : Option Str} {diagnosis diagnosis' : Diagnosis} {plan plan' : Plan}
  (run : Diagnosed machine device host kb release chipOverride aliasLines res driver diagnosis plan)
  (run' : Diagnosed machine' device host' kb' release' chipOverride aliasLines' res' driver' diagnosis' plan')
  (more : MoreEvidence device machine machine' host host' kb kb' aliasLines aliasLines')

omit [Interpreter] in
theorem named_of_namedChipset (named : namedChipset device kb chipOverride ≠ "UNKNOWN") :
    truthy chipOverride = true ∨ ∃ entry, kbEntry kb device.vid device.pid = some entry := by
  by_contra unnamed
  obtain ⟨automatic, unlisted⟩ := not_or.mp unnamed
  have absent : kbEntry kb device.vid device.pid = none :=
    Option.eq_none_iff_forall_ne_some.mpr fun entry found => unlisted ⟨entry, found⟩
  rw [namedChipset, if_neg automatic, absent] at named
  exact named rfl

omit [Interpreter] in
include more in
/-- A name, once given, stays. -/
theorem namedChipset_mono (named : truthy chipOverride = true ∨ ∃ entry, kbEntry kb device.vid device.pid = some entry) :
    namedChipset device kb' chipOverride = namedChipset device kb chipOverride := by
  unfold namedChipset
  split
  · rfl
  · rename_i automatic
    obtain ⟨entry, found⟩ := named.resolve_left automatic
    have found' : kbEntry kb' device.vid device.pid = some entry := find?_of_prefix more.kb found
    rw [found, found']

omit [Interpreter] in
include more in
theorem unidentified_mono (unnamed : Unidentified device kb' aliasLines' chipOverride) :
    Unidentified device kb aliasLines chipOverride := by
  obtain ⟨name, unclaimed, unlisted⟩ := unnamed
  refine ⟨?_, ?_, ?_⟩
  · by_contra named
    exact named (namedChipset_mono more (named_of_namedChipset named) ▸ name)
  · by_contra claimed
    exact deviceRows_ne_nil more.rows claimed unclaimed
  · cases found : kbEntry kb device.vid device.pid with
    | none => rfl
    | some entry =>
        have found' : kbEntry kb' device.vid device.pid = some entry := find?_of_prefix more.kb found
        rw [found'] at unlisted
        exact unlisted

omit [Interpreter] in
include more in
/-- A driver that is known stays known, when the device has a name or a row. -/
theorem driverKnown_mono (named : ¬ Unidentified device kb aliasLines chipOverride)
    (known : DriverKnown machine device kb aliasLines chipOverride) :
    DriverKnown machine' device kb' aliasLines' chipOverride := by
  by_cases claimed : deviceRows device aliasLines = []
  · obtain ⟨entry, found, detailed⟩ := known.resolve_left (not_not.mpr claimed)
    refine .inr ⟨entry, ?_, detailed⟩
    have kept : machine'.chipsetKb.entryByName (namedChipset device kb chipOverride) = some entry :=
      find?_of_prefix more.packaged found
    have settled : truthy chipOverride = true ∨ ∃ entry, kbEntry kb device.vid device.pid = some entry := by
      by_cases name : namedChipset device kb chipOverride = "UNKNOWN"
      · refine .inr ?_
        by_contra unlisted
        have absent : kbEntry kb device.vid device.pid = none :=
          Option.eq_none_iff_forall_ne_some.mpr fun entry found => unlisted ⟨entry, found⟩
        exact named ⟨name, claimed, by rw [absent]; rfl⟩
      · exact named_of_namedChipset name
    rw [namedChipset_mono more settled]
    exact kept
  · exact .inl (deviceRows_ne_nil more.rows claimed)

include run run' more

theorem knowledge_mono : knowledge diagnosis.state ≤ knowledge diagnosis'.state := by
  have table := run.stateTable
  have table' := run'.stateTable
  generalize diagnosis.state = state at table
  generalize diagnosis'.state = state' at table'
  cases table with
  | unknown unnamed => exact Nat.zero_le _
  | working named bound =>
      cases table' with
      | unknown unnamed' => exact absurd (unidentified_mono more unnamed') named
      | working _ _ => exact le_rfl
      | unbound _ unbound' _ => exact absurd (more.bound bound) unbound'
      | unclaimed _ unbound' _ => exact absurd (more.bound bound) unbound'
  | unbound named unbound known =>
      cases table' with
      | unknown unnamed' => exact absurd (unidentified_mono more unnamed') named
      | working _ _ => decide
      | unbound _ _ _ => exact le_rfl
      | unclaimed _ _ unknown' => exact absurd (driverKnown_mono more named known) unknown'
  | unclaimed named unbound unknown =>
      cases table' with
      | unknown unnamed' => exact absurd (unidentified_mono more unnamed') named
      | working _ _ => decide
      | unbound _ _ _ => decide
      | unclaimed _ _ _ => exact le_rfl

theorem knowsMore : KnowsMore diagnosis diagnosis' := by
  have state := knowledge_mono run run' more
  obtain ⟨identification, candidates⟩ := @quietDiagnosis_shows (overrideChip chipOverride res) driver machine.chipsetKb
  obtain ⟨identification', candidates'⟩ :=
    @quietDiagnosis_shows (overrideChip chipOverride res') driver' machine'.chipsetKb
  rw [← run.quiet] at identification candidates
  rw [← run'.quiet] at identification' candidates'
  rw [overrideChip_candidates] at candidates candidates'
  refine ⟨state, ?_, ?_, ?_, ?_⟩
  · rw [identification, identification', overrideChip_chipset run.resolved, overrideChip_chipset run'.resolved]
    exact fun named => namedChipset_mono more (named_of_namedChipset named)
  · rw [identification, identification']
    match chipOverride with
    | none => exact certainty_mono more.kb more.rows run.resolved run'.resolved
    | some [] => exact certainty_mono more.kb more.rows run.resolved run'.resolved
    | some (c :: chip) => exact le_rfl
  · rw [candidates, candidates']
    intro candidate member source
    have listed : candidate ∈ (deviceRows device aliasLines).map (aliasCandidate device) := by
      rw [← (resolveDevice_resolved run.resolved).alias_candidates, List.mem_filter, decide_eq_true_eq]
      exact ⟨member, source⟩
    have listed' := List.map_subset (aliasCandidate device) (deviceRows_subset more.rows) listed
    rw [← (resolveDevice_resolved run'.resolved).alias_candidates, List.mem_filter] at listed'
    exact listed'.1
  · rw [candidates, candidates']
    intro candidate member
    rw [modules_iff run'.resolved]
    rcases (modules_iff run.resolved).mp ⟨candidate, member, rfl⟩ with ⟨row, claims, same⟩ | ⟨entry, found, listed⟩
    · exact .inl ⟨row, deviceRows_subset more.rows claims, same⟩
    · exact .inr ⟨entry, find?_of_prefix more.kb found, listed⟩

end Runs

def silentHost : Host := dongleHost [("/lib/modules/6.8.0/modules.alias", "")]

theorem not_driverBound_silentHost : ¬ DriverBound silentHost goldenDevice := by
  rintro (⟨target, ⟨resolved, present⟩, _⟩ | ⟨target, ⟨resolved, present⟩, _⟩)
  · cases resolved
    cases present
  · cases resolved
    cases present

end DongleRescue.Cli
