import DongleRescue.Data.Keyed
import DongleRescue.Diagnostics.RejectedLog

namespace DongleRescue.Diagnostics

open DongleRescue.Data DongleRescue.Identification DongleRescue.Firmware

/-! How the state of a diagnosis moves with the evidence: the log lines and the
modprobe.d files are sets as far as the state goes, and more of them never lowers it
unless a file without a path hides the block. -/

/-- The ranking of the classifier's documentation. -/
def severity : DiagnosisState → Nat
  | .unknownDevice => 4
  | .dModuleBlocked => 3
  | .cFirmwareMissing => 2
  | .bIdUnbound | .eNoIntreeDriver => 1
  | .aWorking => 0

/-- What the classifier asks, in the order of its questions. -/
structure Observation where
  unnamed : Bool
  blocked : Bool
  missing : Bool
  bound : Bool
  claimed : Bool
  scarred : Bool

namespace Observation

def state (seen : Observation) : DiagnosisState :=
  if seen.unnamed then .unknownDevice
  else if seen.blocked then .dModuleBlocked
  else if seen.missing then .cFirmwareMissing
  else if !seen.bound then if seen.claimed then .bIdUnbound else .eNoIntreeDriver
  else if seen.scarred then .cFirmwareMissing
  else .aWorking

/-- The same device and driver, with more evidence against them. -/
structure Worse (seen more : Observation) : Prop where
  unnamed : seen.unnamed = more.unnamed
  bound : seen.bound = more.bound
  claimed : seen.claimed = more.claimed
  blocked : seen.blocked = true → more.blocked = true
  missing : seen.missing = true → more.missing = true
  scarred : seen.scarred = true → more.scarred = true

variable {seen more : Observation}

theorem severity_le_of_named (named : seen.unnamed = false) : severity seen.state ≤ 3 := by
  simp only [state, named, Bool.false_eq_true, if_false]
  split_ifs <;> decide

theorem severity_le_of_unblocked (named : seen.unnamed = false) (unblocked : seen.blocked = false) :
    severity seen.state ≤ 2 := by
  simp only [state, named, unblocked, Bool.false_eq_true, if_false]
  split_ifs <;> decide

theorem Worse.severity_le (worse : Worse seen more) : severity seen.state ≤ severity more.state := by
  have sameName := worse.unnamed
  cases unnamed : more.unnamed with
  | true =>
      rw [unnamed] at sameName
      simp [state, unnamed, sameName]
  | false =>
      rw [unnamed] at sameName
      cases blocked : more.blocked with
      | true =>
          have top : more.state = .dModuleBlocked := by simp [state, unnamed, blocked]
          rw [top]
          exact severity_le_of_named sameName
      | false =>
          have unblocked : seen.blocked = false := by
            simpa [blocked] using worse.blocked
          cases missing : more.missing with
          | true =>
              have top : more.state = .cFirmwareMissing := by simp [state, unnamed, blocked, missing]
              rw [top]
              exact severity_le_of_unblocked sameName unblocked
          | false =>
              have present : seen.missing = false := by
                simpa [missing] using worse.missing
              have sameBinding := worse.bound
              have scarred := worse.scarred
              simp only [state, sameName, unnamed, unblocked, blocked, present, missing, sameBinding,
                worse.claimed, Bool.false_eq_true, if_false]
              split_ifs <;> simp_all [severity]

theorem Worse.state_eq (worse : Worse seen more) (better : Worse more seen) : seen.state = more.state := by
  have blocked : seen.blocked = more.blocked := Bool.eq_iff_iff.mpr ⟨worse.blocked, better.blocked⟩
  have missing : seen.missing = more.missing := Bool.eq_iff_iff.mpr ⟨worse.missing, better.missing⟩
  have scarred : seen.scarred = more.scarred := Bool.eq_iff_iff.mpr ⟨worse.scarred, better.scarred⟩
  simp only [state, worse.unnamed, worse.bound, worse.claimed, blocked, missing, scarred]

theorem state_eq_working_iff : seen.state = .aWorking ↔
    seen.unnamed = false ∧ seen.blocked = false ∧ seen.missing = false ∧ seen.bound = true ∧
      seen.scarred = false := by
  rw [state]
  split_ifs <;> simp_all

end Observation

def Blocking (module : Option Str) (file : Str × Str) : Prop :=
  ∃ text, module = some text ∧ text ≠ [] ∧ (splitlines file.2).any (lineBlocks text) = true

section Files

variable {module : Option Str} {files more : List (Str × Str)} {path : Str}

theorem blacklisted_eq_sorted {text : Str} (nonempty : text ≠ []) (files : List (Str × Str)) :
    blacklisted (some text) files =
      ((Keyed.sorted files).find? fun file => (splitlines file.2).any (lineBlocks text)).map Prod.fst := by
  have order : (files.insertionSort fun left right => textLe left.1 right.1 = true) = Keyed.sorted files := by
    have same := List.map_insertionSort Keyed.ByKey
      (fun left right : Str × Str => textLe left.1 right.1 = true) id files
      fun left _ right _ => (textLe_iff : textLe left.1 right.1 = true ↔ _).symm
    rw [List.map_id, List.map_id] at same
    exact same.symm
  cases text with
  | nil => exact absurd rfl nonempty
  | cons c rest =>
      unfold blacklisted
      simp only [order]

theorem blacklisted_eq_none_iff : blacklisted module files = none ↔ ∀ file ∈ files, ¬ Blocking module file := by
  match module with
  | none => simp [blacklisted, Blocking]
  | some [] => simp [blacklisted, Blocking]
  | some (c :: rest) =>
      have nonempty : c :: rest ≠ [] := by simp
      rw [blacklisted_eq_sorted nonempty, Option.map_eq_none_iff, List.find?_eq_none]
      constructor
      · intro clean file member blocking
        obtain ⟨text, same, _, blocks⟩ := blocking
        cases same
        exact clean file ((Keyed.sorted_perm files).mem_iff.mpr member) blocks
      · intro clean file member blocks
        exact clean file ((Keyed.sorted_perm files).mem_iff.mp member) ⟨_, rfl, nonempty, blocks⟩

/-- The path that is returned is the least one of a blocking file. -/
theorem blacklisted_some (blocked : blacklisted module files = some path) :
    (∃ file ∈ files, Blocking module file ∧ file.1 = path) ∧
      ∀ file ∈ files, Blocking module file → path ≤ file.1 := by
  match module with
  | none => simp [blacklisted] at blocked
  | some [] => simp [blacklisted] at blocked
  | some (c :: rest) =>
      have nonempty : c :: rest ≠ [] := by simp
      rw [blacklisted_eq_sorted nonempty, Option.map_eq_some_iff] at blocked
      obtain ⟨file, first, same⟩ := blocked
      obtain ⟨member, blocks, least⟩ := Keyed.find?_sorted first
      refine ⟨⟨file, member, ⟨_, rfl, nonempty, blocks⟩, same⟩, ?_⟩
      intro other inFiles blocking
      obtain ⟨text, sameModule, _, blocksToo⟩ := blocking
      cases sameModule
      exact same ▸ least other inFiles blocksToo

theorem eq_nil_of_le_nil (below : path ≤ []) : path = [] := by
  cases path with
  | nil => rfl
  | cons c rest => exact absurd (List.nil_lt_cons c rest) (not_lt.mpr below)

/-- A blocking file under the empty path comes first and is reported as no path. -/
theorem blacklisted_eq_nil_iff :
    blacklisted module files = some [] ↔ ∃ file ∈ files, Blocking module file ∧ file.1 = [] := by
  constructor
  · intro blocked
    exact (blacklisted_some blocked).1
  · intro ⟨file, member, blocking, empty⟩
    cases blocked : blacklisted module files with
    | none => exact absurd blocking (blacklisted_eq_none_iff.mp blocked file member)
    | some path =>
        have least := (blacklisted_some blocked).2 file member blocking
        rw [empty] at least
        rw [eq_nil_of_le_nil least]

theorem truthy_blacklisted_iff : truthy (blacklisted module files) = true ↔
    (∃ file ∈ files, Blocking module file) ∧ ∀ file ∈ files, Blocking module file → file.1 ≠ [] := by
  rw [truthy_iff]
  constructor
  · intro ⟨path, blocked, nonempty⟩
    obtain ⟨⟨file, member, blocking, _⟩, _⟩ := blacklisted_some blocked
    refine ⟨⟨file, member, blocking⟩, fun other inFiles blocks empty => ?_⟩
    have hidden := blacklisted_eq_nil_iff.mpr ⟨other, inFiles, blocks, empty⟩
    rw [blocked] at hidden
    exact nonempty (Option.some.inj hidden)
  · intro ⟨⟨file, member, blocking⟩, named⟩
    cases blocked : blacklisted module files with
    | none => exact absurd blocking (blacklisted_eq_none_iff.mp blocked file member)
    | some path =>
        refine ⟨path, rfl, fun empty => ?_⟩
        rw [empty] at blocked
        obtain ⟨other, inFiles, blocks, none⟩ := blacklisted_eq_nil_iff.mp blocked
        exact named other inFiles blocks none

end Files

section Runs

variable [Interpreter] {machine : Machine} {res : DiagnosisInput} {boundDriver : Option Str}
  {lines lines' : List Str} {files files' : List (Str × Str)} {host : Option Host}
  {managers : Option (List Str)} {failures failures' : List (Str × Int)} {diagnosis before after : Diagnosis}

theorem mem_dmesgFirmwareFailures (read : dmesgFirmwareFailures lines = .ok failures)
    {failure : Str × Int} : failure ∈ failures ↔ ∃ line ∈ lines, lineFailure line = .ok (some failure) := by
  induction lines generalizing failures with
  | nil =>
      cases read
      simp
  | cons line lines ih =>
      rw [dmesgFirmwareFailures_cons] at read
      obtain ⟨found, here, read⟩ := bind_ok read
      obtain ⟨later, readLater, read⟩ := bind_ok read
      cases read
      rw [List.mem_append, Option.mem_toList, List.exists_mem_cons_iff, ← ih readLater, here, Except.ok.injEq]

theorem dmesgFirmwareFailures_subset (read : dmesgFirmwareFailures lines = .ok failures)
    (read' : dmesgFirmwareFailures lines' = .ok failures') (kept : lines ⊆ lines') : failures ⊆ failures' := by
  intro failure member
  obtain ⟨line, inLines, found⟩ := (mem_dmesgFirmwareFailures read).mp member
  exact (mem_dmesgFirmwareFailures read').mpr ⟨line, kept inLines, found⟩

theorem dmesgFirmwareFailures_eq_nil_iff (read : dmesgFirmwareFailures lines = .ok failures) :
    failures = [] ↔ ∀ line ∈ lines, searchFailure line = none := by
  induction lines generalizing failures with
  | nil =>
      cases read
      simp
  | cons line lines ih =>
      rw [dmesgFirmwareFailures_cons] at read
      obtain ⟨found, here, read⟩ := bind_ok read
      obtain ⟨later, readLater, read⟩ := bind_ok read
      cases read
      have clean : found = none ↔ searchFailure line = none := by
        unfold lineFailure at here
        split at here
        · rename_i unsigned
          cases here
          simp [unsigned]
        · rename_i signed
          obtain ⟨error, _, here⟩ := bind_ok here
          cases here
          simp [signed]
      rw [List.forall_mem_cons, ← clean, ← ih readLater, List.append_eq_nil_iff, Option.toList_eq_nil_iff]

omit [Interpreter] in
theorem reportedFile_isSome_of_subset {entry : Option KbEntry} (kept : failures ⊆ failures')
    (reported : (reportedFile entry failures).isSome) : (reportedFile entry failures').isSome := by
  cases entry with
  | none => cases reported
  | some entry =>
      obtain ⟨failure, member, declared⟩ := List.findSome?_isSome_iff.mp reported
      exact List.findSome?_isSome_iff.mpr ⟨failure, kept member, declared⟩

def observation (res : DiagnosisInput) (boundDriver : Option Str) (modprobeD : List (Str × Str))
    (host : Option Host) (kb : Kb) (failures : List (Str × Int)) : Observation where
  unnamed := unidentified res
  blocked := truthy (blacklisted (primaryModule res boundDriver) modprobeD)
  missing := (missingIn host (shownModule res boundDriver) (kb.entryByName res.chipsetId.chipset) failures).isSome
  bound := truthy boundDriver
  claimed := decide ((classifyUnbound res (kb.entryByName res.chipsetId.chipset)).state = .bIdUnbound)
  scarred := !failures.isEmpty

theorem verdict_state {kb : Kb}
    (returned : verdict machine res boundDriver files host managers kb failures = .ok diagnosis) :
    diagnosis.state = (observation res boundDriver files host kb failures).state := by
  by_cases clear : Clear res boundDriver files
  · rw [Observation.state]
    simp only [observation, clear.named, clear.unblocked, Bool.false_eq_true, if_false]
    cases missing : missingIn host (shownModule res boundDriver) (kb.entryByName res.chipsetId.chipset) failures with
    | some file =>
        rw [verdict_missing clear missing] at returned
        obtain ⟨action, _, returned⟩ := bind_ok returned
        cases returned
        rfl
    | none =>
        rw [verdict_driver clear missing] at returned
        cases returned
        rw [classifyDriver]
        cases truthy boundDriver with
        | true => cases failures <;> rfl
        | false =>
            have unbound : (classifyUnbound res (kb.entryByName res.chipsetId.chipset)).state = .bIdUnbound ∨
                (classifyUnbound res (kb.entryByName res.chipsetId.chipset)).state = .eNoIntreeDriver :=
              classifyUnbound_state
            rcases unbound with claimed | unclaimed
            · simp [claimed]
            · simp [unclaimed]
  · rw [verdict_unclear clear] at returned
    cases returned
    rw [closedVerdict, Observation.state]
    by_cases unnamed : unidentified res = true
    · rw [if_pos unnamed]
      exact (if_pos unnamed).symm
    · have blocked : truthy (blacklisted (primaryModule res boundDriver) files) = true := by
        by_contra unblocked
        exact clear ⟨by simpa using unnamed, by simpa using unblocked⟩
      rw [if_neg unnamed]
      exact ((if_neg unnamed).trans (if_pos blocked)).symm

omit [Interpreter] in
theorem observation_worse {kb : Kb} (kept : failures ⊆ failures')
    (shown : truthy (blacklisted (primaryModule res boundDriver) files) = true →
      truthy (blacklisted (primaryModule res boundDriver) files') = true) :
    Observation.Worse (observation res boundDriver files host kb failures)
      (observation res boundDriver files' host kb failures') where
  unnamed := rfl
  bound := rfl
  claimed := rfl
  blocked := shown
  missing := by
    simp only [observation, missingIn, Option.isSome_or, Bool.or_eq_true]
    intro missing
    rcases missing with reported | absent
    · exact .inl (reportedFile_isSome_of_subset kept reported)
    · exact .inr absent
  scarred := by
    simp only [observation, Bool.not_eq_true', List.isEmpty_eq_false_iff]
    intro nonempty empty
    exact nonempty (List.subset_nil.mp (empty ▸ kept))

theorem classify_state {kb : Option Kb}
    (returned : classify machine res boundDriver lines files host managers kb = .ok diagnosis) :
    ∃ failures, dmesgFirmwareFailures lines = .ok failures ∧
      diagnosis.state = (observation res boundDriver files host (kb.getD machine.chipsetKb) failures).state := by
  rw [classify_eq] at returned
  obtain ⟨failures, read, returned⟩ := bind_ok returned
  exact ⟨failures, read, verdict_state returned⟩

/-- The block that was reported is hidden by a blocking file under the empty path. -/
structure Hides (res : DiagnosisInput) (boundDriver : Option Str) (files files' : List (Str × Str)) : Prop where
  named : unidentified res = false
  reported : truthy (blacklisted (primaryModule res boundDriver) files) = true
  hidden : blacklisted (primaryModule res boundDriver) files' = some []

/-- The bound driver is blocked from under the empty path, and nothing else is wrong. -/
structure Overlooks (res : DiagnosisInput) (boundDriver : Option Str) (lines : List Str)
    (files : List (Str × Str)) (host : Option Host) (kb : Kb) : Prop where
  named : unidentified res = false
  bound : truthy boundDriver = true
  silent : ∀ line ∈ lines, searchFailure line = none
  present : absentFile host (shownModule res boundDriver) (kb.entryByName res.chipsetId.chipset) = none
  hidden : blacklisted boundDriver files = some []

omit [Interpreter] in
theorem truthy_blacklisted_of_subset {module : Option Str} (kept : files ⊆ files')
    (reported : truthy (blacklisted module files) = true) (shown : blacklisted module files' ≠ some []) :
    truthy (blacklisted module files') = true := by
  obtain ⟨⟨file, member, blocking⟩, _⟩ := truthy_blacklisted_iff.mp reported
  refine truthy_blacklisted_iff.mpr ⟨⟨file, kept member, blocking⟩, ?_⟩
  intro other inFiles blocks empty
  exact shown (blacklisted_eq_nil_iff.mpr ⟨other, inFiles, blocks, empty⟩)

omit [Interpreter] in
theorem truthy_blacklisted_perm {module : Option Str} (perm : files.Perm files') :
    truthy (blacklisted module files) = true → truthy (blacklisted module files') = true := by
  intro reported
  obtain ⟨⟨file, member, blocking⟩, shown⟩ := truthy_blacklisted_iff.mp reported
  exact truthy_blacklisted_iff.mpr ⟨⟨file, perm.mem_iff.mp member, blocking⟩,
    fun other inFiles => shown other (perm.mem_iff.mpr inFiles)⟩

omit [Interpreter] in
/-- More evidence lowers the state exactly when it hides a block. -/
theorem severity_le_iff {kb : Kb} (keptFailures : failures ⊆ failures') (keptFiles : files ⊆ files') :
    severity (observation res boundDriver files host kb failures).state ≤
        severity (observation res boundDriver files' host kb failures').state ↔
      ¬ Hides res boundDriver files files' := by
  constructor
  · intro ordered hides
    have reported : (observation res boundDriver files host kb failures).state = .dModuleBlocked := by
      simp [Observation.state, observation, hides.named, hides.reported]
    have unblocked : truthy (blacklisted (primaryModule res boundDriver) files') = false := by
      rw [hides.hidden]
      rfl
    have lowered : severity (observation res boundDriver files' host kb failures').state ≤ 2 :=
      Observation.severity_le_of_unblocked hides.named unblocked
    rw [reported] at ordered
    exact absurd (ordered.trans lowered) (by decide)
  · intro shown
    by_cases unnamed : unidentified res = true
    · have top (files : List (Str × Str)) (failures : List (Str × Int)) :
          (observation res boundDriver files host kb failures).state = .unknownDevice := if_pos unnamed
      rw [top, top]
    · refine (observation_worse keptFailures fun reported => ?_).severity_le
      refine truthy_blacklisted_of_subset keptFiles reported fun hidden => ?_
      exact shown ⟨by simpa using unnamed, reported, hidden⟩

omit [Interpreter] in
theorem observation_perm {kb : Kb} (sameFailures : ∀ failure, failure ∈ failures ↔ failure ∈ failures')
    (sameFiles : files.Perm files') : (observation res boundDriver files host kb failures).state =
      (observation res boundDriver files' host kb failures').state :=
  (observation_worse (fun _ => (sameFailures _).mp) (truthy_blacklisted_perm sameFiles)).state_eq
    (observation_worse (fun _ => (sameFailures _).mpr) (truthy_blacklisted_perm sameFiles.symm))

theorem working_justified_iff {kb : Kb} (read : dmesgFirmwareFailures lines = .ok failures) :
    ((observation res boundDriver files host kb failures).state = .aWorking →
        truthy boundDriver = true ∧ blacklisted boundDriver files = none ∧
          ∀ line ∈ lines, searchFailure line = none) ↔
      ¬ Overlooks res boundDriver lines files host kb := by
  rw [Observation.state_eq_working_iff]
  constructor
  · intro justified overlooks
    have primary : primaryModule res boundDriver = boundDriver := pyOr_of_truthy overlooks.bound _
    have silent : failures = [] := (dmesgFirmwareFailures_eq_nil_iff read).mpr overlooks.silent
    have unblocked : truthy (blacklisted (primaryModule res boundDriver) files) = false := by
      rw [primary, overlooks.hidden]
      rfl
    have unreported : reportedFile (kb.entryByName res.chipsetId.chipset) failures = none := by
      rw [silent]
      cases kb.entryByName res.chipsetId.chipset <;> rfl
    have present : (missingIn host (shownModule res boundDriver) (kb.entryByName res.chipsetId.chipset)
        failures).isSome = false := by
      rw [missingIn, unreported, overlooks.present]
      rfl
    have none := (justified ⟨overlooks.named, unblocked, present, overlooks.bound, by simp [observation, silent]⟩).2.1
    rw [overlooks.hidden] at none
    cases none
  · rintro seen ⟨named, unblocked, present, bound, unscarred⟩
    have primary : primaryModule res boundDriver = boundDriver := pyOr_of_truthy bound _
    have silent : ∀ line ∈ lines, searchFailure line = none :=
      (dmesgFirmwareFailures_eq_nil_iff read).mp (by simpa [observation] using unscarred)
    refine ⟨bound, ?_, silent⟩
    cases blocked : blacklisted boundDriver files with
    | none => rfl
    | some path =>
        have hidden : blacklisted boundDriver files = some [] := by
          have unblocked : truthy (blacklisted (primaryModule res boundDriver) files) = false := unblocked
          rw [primary, blocked] at unblocked
          cases path with
          | nil => exact blocked
          | cons c rest => cases unblocked
        have missing : missingIn host (shownModule res boundDriver) (kb.entryByName res.chipsetId.chipset)
            failures = none := Option.isSome_eq_false_iff.mp present |> Option.isNone_iff_eq_none.mp
        have absent := (Option.or_eq_none_iff.mp missing).2
        exact absurd ⟨named, bound, silent, absent, hidden⟩ seen

variable {kb : Option Kb}

/-- More evidence lowers the state exactly when it hides a block under the empty path, its
order never matters, and a working device is free of blocks unless one is so hidden. -/
theorem classify_escalates_iff
    (first : classify machine res boundDriver lines files host managers kb = .ok before)
    (second : classify machine res boundDriver lines' files' host managers kb = .ok after) :
    (lines ⊆ lines' → files ⊆ files' →
      (severity before.state ≤ severity after.state ↔ ¬ Hides res boundDriver files files')) ∧
    (lines.Perm lines' → files.Perm files' → before.state = after.state) ∧
    ((before.state = .aWorking → truthy boundDriver = true ∧ blacklisted boundDriver files = none ∧
        ∀ line ∈ lines, searchFailure line = none) ↔
      ¬ Overlooks res boundDriver lines files host (kb.getD machine.chipsetKb)) := by
  obtain ⟨failures, read, state⟩ := classify_state first
  obtain ⟨failures', read', state'⟩ := classify_state second
  rw [state, state']
  refine ⟨fun keptLines keptFiles => ?_, fun sameLines sameFiles => ?_, working_justified_iff read⟩
  · exact severity_le_iff (dmesgFirmwareFailures_subset read read' keptLines) keptFiles
  · refine observation_perm (fun failure => ⟨?_, ?_⟩) sameFiles
    · apply dmesgFirmwareFailures_subset read read' sameLines.subset
    · apply dmesgFirmwareFailures_subset read' read sameLines.symm.subset

end Runs

def blockFile (path : Str) : Str × Str := (path, "# vendor quirk\nblacklist mt7601u # see wiki\n")

theorem classify_escalates_iff_blocked :
    ∃ before after, @classify asciiInterpreter bareMachine mt7601uInput (some "mt7601u") [] [] none none
        (some mt7601uKb) = .ok before ∧
      @classify asciiInterpreter bareMachine mt7601uInput (some "mt7601u") [failureLine "mt7601u.bin"]
        [blockFile "/etc/modprobe.d/mt.conf"] none none (some mt7601uKb) = .ok after ∧
      severity before.state ≤ severity after.state := by
  let _ : Interpreter := asciiInterpreter
  have quiet : classify bareMachine mt7601uInput (some "mt7601u") [] [] none none (some mt7601uKb) = .ok _ := rfl
  have blocked : classify bareMachine mt7601uInput (some "mt7601u") [failureLine "mt7601u.bin"]
      [blockFile "/etc/modprobe.d/mt.conf"] none none (some mt7601uKb) = .ok _ := rfl
  refine ⟨_, _, quiet, blocked, ?_⟩
  refine ((classify_escalates_iff quiet blocked).1 (List.nil_subset _) (List.nil_subset _)).mpr ?_
  intro hides
  cases hides.reported

/-- A blocking file under the empty path turns a blocked module into a working one. -/
theorem empty_path_hides_block :
    ∃ before after, @classify asciiInterpreter bareMachine mt7601uInput (some "mt7601u") []
        [blockFile "/etc/modprobe.d/mt.conf"] none none (some mt7601uKb) = .ok before ∧
      @classify asciiInterpreter bareMachine mt7601uInput (some "mt7601u") []
        [blockFile "/etc/modprobe.d/mt.conf", blockFile []] none none (some mt7601uKb) = .ok after ∧
      severity after.state < severity before.state ∧ after.state = .aWorking ∧
      blacklisted (some "mt7601u") [blockFile "/etc/modprobe.d/mt.conf", blockFile []] = some [] :=
  ⟨_, _, rfl, rfl, by decide, rfl, rfl⟩

end DongleRescue.Diagnostics
