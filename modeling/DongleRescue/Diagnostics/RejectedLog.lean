import DongleRescue.Diagnostics.MissingFirmware
import DongleRescue.Firmware.LogRoundTrip

namespace DongleRescue.Diagnostics

open DongleRescue.Data DongleRescue.Identification DongleRescue.Firmware

/-! What the lines do to a diagnosis whose firmware name the log parser refuses. -/

section Lines

variable [Interpreter]

def rejected (line : Str) : Bool :=
  match lineFailure line with
  | .ok (some (name, _)) => !fwNameValid name
  | _ => false

def keptLines (dmesgLines : List Str) : List Str := dmesgLines.filter fun line => !rejected line

omit [Interpreter] in
def accepted (failures : List (Str × Int)) : List (Str × Int) :=
  failures.filter fun failure => fwNameValid failure.1

theorem dmesgFirmwareFailures_cons (line : Str) (lines : List Str) :
    dmesgFirmwareFailures (line :: lines) = do
      let found ← lineFailure line
      let later ← dmesgFirmwareFailures lines
      return found.toList ++ later := by
  rw [dmesgFirmwareFailures, List.mapM_cons, dmesgFirmwareFailures]
  simp only [bind_assoc, pure_bind]
  cases lineFailure line with
  | error failure => rfl
  | ok found =>
      cases lines.mapM lineFailure with
      | error failure => rfl
      | ok later => cases found <;> rfl

/-- Without the rejected lines the classifier reads the accepted failures. -/
theorem dmesgFirmwareFailures_kept (dmesgLines : List Str) :
    dmesgFirmwareFailures (keptLines dmesgLines) = (dmesgFirmwareFailures dmesgLines).map accepted := by
  induction dmesgLines with
  | nil => rfl
  | cons line lines ih =>
      rw [dmesgFirmwareFailures_cons]
      cases read : lineFailure line with
      | error failure =>
          have kept : rejected line = false := by rw [rejected, read]
          rw [keptLines, List.filter_cons_of_pos (by simp [kept]), dmesgFirmwareFailures_cons, read]
          rfl
      | ok found =>
          match found with
          | none =>
              have kept : rejected line = false := by rw [rejected, read]
              rw [keptLines, List.filter_cons_of_pos (by simp [kept]), dmesgFirmwareFailures_cons, read]
              exact (bind_pure _).trans (ih.trans (congrArg _ (bind_pure _).symm))
          | some (name, error) =>
              have isRejected : rejected line = !fwNameValid name := by rw [rejected, read]
              rw [keptLines, List.filter_cons, isRejected, Bool.not_not]
              cases valid : fwNameValid name with
              | true =>
                  have kept (later : List (Str × Int)) :
                      accepted ((name, error) :: later) = (name, error) :: accepted later :=
                    List.filter_cons_of_pos valid
                  rw [if_pos rfl, dmesgFirmwareFailures_cons, read, ← keptLines, ih]
                  cases dmesgFirmwareFailures lines with
                  | error failure => rfl
                  | ok later => exact congrArg Except.ok (kept later).symm
              | false =>
                  have dropped (later : List (Str × Int)) :
                      accepted ((name, error) :: later) = accepted later :=
                    List.filter_cons_of_neg (by simp [valid])
                  rw [if_neg (by simp), ← keptLines, ih]
                  cases dmesgFirmwareFailures lines with
                  | error failure => rfl
                  | ok later => exact congrArg Except.ok (dropped later).symm

def marked (found : List FirmwareFailure) (index : Nat) : Bool :=
  found.any fun failure => decide (failure.lineIndex = index) && !failure.valid

/-- The log without the lines the parser marks; nothing is marked when it raises. -/
def withoutMarked (dmesgLines : List Str) : List Str :=
  match parseDmesgFirmwareFailures dmesgLines with
  | .ok found => (dmesgLines.zipIdx.filter fun entry => !marked found entry.2).map Prod.fst
  | .error _ => dmesgLines

/-- A failure with the index of its line. -/
def failureAt (entry : Str × Nat) : Option (Nat × Str × Int × Bool) :=
  match lineFailure entry.1 with
  | .ok (some (name, error)) => some (entry.2, name, error, fwNameValid name)
  | _ => none

omit [Interpreter] in
def factsOf (failure : FirmwareFailure) : Nat × Str × Int × Bool :=
  (failure.lineIndex, failure.firmwarePath, failure.error, failure.valid)

theorem failureAt_eq (entry : Str × Nat) : failureAt entry = (failureOf entry).map factsOf := by
  rw [failureAt, failureOf]
  cases lineFailure entry.1 with
  | error failure => rfl
  | ok stated =>
      cases stated with
      | none => rfl
      | some found => rfl

theorem parsed_facts {lines : List Str} {found : List FirmwareFailure}
    (parsed : parseDmesgFirmwareFailures lines = .ok found) :
    found.map factsOf = lines.zipIdx.filterMap failureAt := by
  rw [(parseDmesg_ok_iff.mp parsed).2, List.map_filterMap]
  exact List.filterMap_congr fun entry _ => (failureAt_eq entry).symm

theorem failureAt_eq_some_iff {entry : Str × Nat} {facts : Nat × Str × Int × Bool} :
    failureAt entry = some facts ↔
      ∃ name error, lineFailure entry.1 = .ok (some (name, error)) ∧
        facts = (entry.2, name, error, fwNameValid name) := by
  rw [failureAt]
  split
  · rename_i name error read
    simp [read, eq_comm]
  · rename_i other
    constructor
    · intro none
      cases none
    · intro ⟨name, error, read, _⟩
      exact absurd read (other name error)

theorem rejected_iff {line : Str} : rejected line = true ↔
    ∃ name error, lineFailure line = .ok (some (name, error)) ∧ fwNameValid name = false := by
  rw [rejected]
  split
  · rename_i name error read
    simp [read]
  · rename_i other
    constructor
    · intro none
      cases none
    · intro ⟨name, error, read, _⟩
      exact absurd read (other name error)

theorem marked_eq {dmesgLines : List Str} {found : List FirmwareFailure} {line : Str} {index : Nat}
    (parsed : parseDmesgFirmwareFailures dmesgLines = .ok found)
    (member : (line, index) ∈ dmesgLines.zipIdx) : marked found index = rejected line := by
  have facts := parsed_facts parsed
  rw [Bool.eq_iff_iff, rejected_iff, marked, List.any_eq_true]
  simp only [Bool.and_eq_true, decide_eq_true_eq, Bool.not_eq_true']
  constructor
  · intro ⟨failure, inFound, sameIndex, invalid⟩
    have inFacts := List.mem_map_of_mem (f := factsOf) inFound
    rw [facts, List.mem_filterMap] at inFacts
    obtain ⟨⟨other, at_⟩, member', isFailure⟩ := inFacts
    obtain ⟨name, error, read, same⟩ := failureAt_eq_some_iff.mp isFailure
    simp only [factsOf, Prod.mk.injEq] at same
    rw [List.mem_zipIdx_iff_getElem?] at member member'
    simp only at member member'
    rw [← same.1, sameIndex, member, Option.some.injEq] at member'
    exact ⟨name, error, by rw [member']; exact read, by rw [← same.2.2.2, invalid]⟩
  · intro ⟨name, error, read, invalid⟩
    have inFacts : (index, name, error, false) ∈ found.map factsOf := by
      rw [facts, List.mem_filterMap]
      exact ⟨(line, index), member, failureAt_eq_some_iff.mpr ⟨name, error, read, by rw [invalid]⟩⟩
    obtain ⟨failure, inFound, same⟩ := List.mem_map.mp inFacts
    simp only [factsOf, Prod.mk.injEq] at same
    exact ⟨failure, inFound, same.1, same.2.2.2⟩

theorem withoutMarked_eq {dmesgLines : List Str} {found : List FirmwareFailure}
    (parsed : parseDmesgFirmwareFailures dmesgLines = .ok found) :
    withoutMarked dmesgLines = keptLines dmesgLines := by
  have same : dmesgLines.zipIdx.filter (fun entry => !marked found entry.2) =
      dmesgLines.zipIdx.filter ((fun line => !rejected line) ∘ Prod.fst) :=
    List.filter_congr fun entry member => by rw [marked_eq parsed member]; rfl
  rw [withoutMarked, parsed]
  simp only
  rw [same, ← List.filter_map, List.zipIdx_map_fst, keptLines]

theorem dmesgFirmwareFailures_eq_from (start : Nat) (lines : List Str) :
    dmesgFirmwareFailures lines = (failuresFrom start lines).map
      fun found => found.map fun failure => (failure.firmwarePath, failure.error) := by
  induction lines generalizing start with
  | nil => rfl
  | cons line lines ih =>
      rw [dmesgFirmwareFailures_cons, failuresFrom, ih (start + 1)]
      cases lineFailure line with
      | error failure => rfl
      | ok here =>
          cases failuresFrom (start + 1) lines with
          | error failure => rfl
          | ok later =>
              cases here with
              | none => rfl
              | some found => rfl

/-- Both parsers of the log read the same failures, and raise on the same lines. -/
theorem dmesgFirmwareFailures_eq_parsed (dmesgLines : List Str) :
    dmesgFirmwareFailures dmesgLines = (parseDmesgFirmwareFailures dmesgLines).map
      fun found => found.map fun failure => (failure.firmwarePath, failure.error) :=
  dmesgFirmwareFailures_eq_from 0 dmesgLines

end Lines

section Leaks

variable [Interpreter] {machine : Machine} {res : DiagnosisInput} {boundDriver : Option Str}
  {dmesgLines : List Str} {modprobeD : List (Str × Str)} {host : Option Host} {managers : Option (List Str)}
  {kb : Kb} {entry : Option KbEntry} {module file : Str} {failures : List (Str × Int)}

omit [Interpreter] in
theorem reportedFile_accepted_of_none (none : reportedFile entry failures = none) :
    reportedFile entry (accepted failures) = Option.none := by
  cases entry with
  | none => rfl
  | some entry =>
      have unreported := List.findSome?_eq_none_iff.mp none
      exact List.findSome?_eq_none_iff.mpr fun failure member =>
        unreported failure (List.mem_of_mem_filter member)

/-- The log blames a file that the accepted lines and the disk do not lead to. -/
structure BlamesFile (machine : Machine) (host : Option Host) (managers : Option (List Str)) (kb : Kb)
    (module : Str) (entry : Option KbEntry) (failures : List (Str × Int)) (file : Str) : Prop where
  reported : reportedFile entry failures = some file
  elsewhere : missingIn host module entry (accepted failures) ≠ some file
  /-- The two files do not fail alike. -/
  answered : ∀ other failure, missingIn host module entry (accepted failures) = some other →
    fileAction machine managers kb module file = .error failure →
      fileAction machine managers kb module other ≠ .error failure

/-- A bound device looks damaged by rejected lines alone. -/
structure Scars (boundDriver : Option Str) (host : Option Host) (module : Str) (entry : Option KbEntry)
    (failures : List (Str × Int)) : Prop where
  bound : truthy boundDriver = true
  unblamed : missingIn host module entry failures = none
  rejected : failures ≠ [] ∧ accepted failures = []

omit [Interpreter] in
theorem exists_owner_of_missing {chipset : Str}
    (missing : missingIn host module (kb.entryByName chipset) failures = some file) :
    ∃ owner, kb.chipsets.find? (declares · file) = some owner := by
  have declared : ∃ entry, kb.entryByName chipset = some entry ∧ file ∈ entry.firmware := by
    rw [missingIn, Option.or_eq_some_iff] at missing
    rcases missing with reported | ⟨_, absent⟩
    · obtain ⟨entry, found, reported⟩ := Option.bind_eq_some_iff.mp reported
      obtain ⟨failure, _, declared⟩ := List.exists_of_findSome?_eq_some reported
      exact ⟨entry, found, List.mem_reverse.mp (List.mem_of_find?_eq_some declared)⟩
    · obtain ⟨_, _, absent⟩ := Option.bind_eq_some_iff.mp absent
      obtain ⟨entry, found, absent⟩ := Option.bind_eq_some_iff.mp absent
      obtain ⟨first, _⟩ := Option.filter_eq_some_iff.mp absent
      exact ⟨entry, found, List.mem_of_head? first⟩
  obtain ⟨entry, found, member⟩ := declared
  have declares : declares entry file = true := by
    rw [Firmware.declares, List.any_eq_true]
    exact ⟨file, member, by simp⟩
  have isSome : (kb.chipsets.find? (Firmware.declares · file)).isSome :=
    List.find?_isSome.mpr ⟨entry, List.mem_of_find?_eq_some found, declares⟩
  exact Option.isSome_iff_exists.mp isSome

omit [Interpreter] in
theorem firmwareMissing_ne_driver (action : RecommendedAction) :
    firmwareMissing res action ≠ classifyDriver res entry boundDriver failures := by
  intro same
  have state : (classifyDriver res entry boundDriver failures).state = .cFirmwareMissing := by
    rw [← same]
    rfl
  have level : (classifyDriver res entry boundDriver failures).confidence = .confirmed := by
    rw [← same]
    rfl
  rw [classifyDriver] at state level
  split at state
  · have states : (classifyUnbound res entry).state = .bIdUnbound ∨ _ := classifyUnbound_state
    rcases states with unbound | unclaimed
    · cases state.symm.trans unbound
    · cases state.symm.trans unclaimed
  · rename_i bound
    rw [if_neg bound] at level
    split at state
    · rename_i scar
      rw [if_pos scar] at level
      cases level
    · cases state

omit [Interpreter] in
theorem classifyDriver_eq_iff {others : List (Str × Int)} :
    classifyDriver res entry boundDriver others = classifyDriver res entry boundDriver failures ↔
      (truthy boundDriver = true → (others = [] ↔ failures = [])) := by
  have kinds : ("install_firmware_package" : Str) ≠ "no_action" := by decide
  have apart : firmwareScar res ≠ working res boundDriver := fun same =>
    kinds (congrArg (fun diagnosis => diagnosis.recommendedAction.kind) same)
  rw [classifyDriver, classifyDriver]
  cases bound : truthy boundDriver with
  | false => simp
  | true =>
      by_cases empty : failures = []
      · by_cases empty' : others = []
        · simp [empty, empty']
        · simp [empty, empty', apart]
      · by_cases empty' : others = []
        · simp [empty, empty', apart.symm]
        · simp [empty, empty']

theorem fileVerdict_eq {other : Str} {owner owner' : KbEntry}
    (found : kb.chipsets.find? (declares · file) = some owner)
    (found' : kb.chipsets.find? (declares · other) = some owner')
    (same : (do
        let action ← fileAction machine managers kb module file
        return firmwareMissing res action) = do
        let action ← fileAction machine managers kb module other
        return firmwareMissing res action) :
    file = other ∨ ∃ failure, fileAction machine managers kb module file = .error failure ∧
      fileAction machine managers kb module other = .error failure := by
  cases acted : fileAction machine managers kb module file with
  | error failure =>
      rw [acted] at same
      cases acted' : fileAction machine managers kb module other with
      | error failure' =>
          rw [acted'] at same
          cases same
          exact .inr ⟨failure, rfl, rfl⟩
      | ok action' =>
          rw [acted'] at same
          cases same
  | ok action =>
      rw [acted] at same
      cases acted' : fileAction machine managers kb module other with
      | error failure' =>
          rw [acted'] at same
          cases same
      | ok action' =>
          rw [acted'] at same
          have sameAction : action = action' :=
            congrArg Diagnosis.recommendedAction (Except.ok.inj same)
          rw [← sameAction] at acted'
          exact .inl ((fileAction_shows found acted).file_eq (fileAction_shows found' acted'))

omit [Interpreter] in
theorem missingIn_accepted_of_none (none : missingIn host module entry failures = none) :
    missingIn host module entry (accepted failures) = Option.none := by
  rw [missingIn, Option.or_eq_none_iff] at none ⊢
  exact ⟨reportedFile_accepted_of_none none.1, none.2⟩

omit [Interpreter] in
/-- A file that the accepted lines do not give back was named in the log. -/
theorem reported_of_elsewhere (missing : missingIn host module entry failures = some file)
    (elsewhere : missingIn host module entry (accepted failures) ≠ some file) :
    reportedFile entry failures = some file := by
  rw [missingIn, Option.or_eq_some_iff] at missing
  rcases missing with reported | ⟨unreported, absent⟩
  · exact reported
  · exact absurd (by rw [missingIn, reportedFile_accepted_of_none unreported, Option.none_or, absent]) elsewhere

/-- The verdict shows what the rejected lines say. -/
def Leaks (machine : Machine) (res : DiagnosisInput) (boundDriver : Option Str)
    (modprobeD : List (Str × Str)) (host : Option Host) (managers : Option (List Str)) (kb : Kb)
    (failures : List (Str × Int)) : Prop :=
  let entry := kb.entryByName res.chipsetId.chipset
  let module := shownModule res boundDriver
  Clear res boundDriver modprobeD ∧
    ((∃ file, BlamesFile machine host managers kb module entry failures file) ∨
      Scars boundDriver host module entry failures)

theorem verdict_accepted_ne_of_blames (clear : Clear res boundDriver modprobeD)
    (blames : BlamesFile machine host managers kb (shownModule res boundDriver)
      (kb.entryByName res.chipsetId.chipset) failures file) :
    verdict machine res boundDriver modprobeD host managers kb (accepted failures) ≠
      verdict machine res boundDriver modprobeD host managers kb failures := by
  intro same
  have missing : missingIn host (shownModule res boundDriver) (kb.entryByName res.chipsetId.chipset)
      failures = some file := by
    rw [missingIn, blames.reported, Option.some_or]
  obtain ⟨owner, found⟩ := exists_owner_of_missing missing
  rw [verdict_missing clear missing] at same
  cases kept : missingIn host (shownModule res boundDriver) (kb.entryByName res.chipsetId.chipset)
    (accepted failures) with
  | some other =>
      obtain ⟨owner', found'⟩ := exists_owner_of_missing kept
      rw [verdict_missing clear kept] at same
      rcases fileVerdict_eq found found' same.symm with sameFile | ⟨failure, fails, fails'⟩
      · exact blames.elsewhere (by rw [kept, sameFile])
      · exact blames.answered other failure kept fails fails'
  | none =>
      rw [verdict_driver clear kept] at same
      obtain ⟨action, _, concluded⟩ := bind_ok same.symm
      exact firmwareMissing_ne_driver action (Except.ok.inj concluded)

theorem verdict_accepted_ne_of_scars (clear : Clear res boundDriver modprobeD)
    (scars : Scars boundDriver host (shownModule res boundDriver)
      (kb.entryByName res.chipsetId.chipset) failures) :
    verdict machine res boundDriver modprobeD host managers kb (accepted failures) ≠
      verdict machine res boundDriver modprobeD host managers kb failures := by
  rw [verdict_driver clear scars.unblamed, verdict_driver clear (missingIn_accepted_of_none scars.unblamed)]
  intro same
  have agree := classifyDriver_eq_iff.mp (Except.ok.inj same) scars.bound
  exact scars.rejected.1 (agree.mp scars.rejected.2)

theorem verdict_accepted_eq (sealed : ¬ Leaks machine res boundDriver modprobeD host managers kb failures) :
    verdict machine res boundDriver modprobeD host managers kb (accepted failures) =
      verdict machine res boundDriver modprobeD host managers kb failures := by
  by_cases clear : Clear res boundDriver modprobeD
  · cases missing : missingIn host (shownModule res boundDriver) (kb.entryByName res.chipsetId.chipset)
      failures with
    | none =>
        rw [verdict_driver clear missing, verdict_driver clear (missingIn_accepted_of_none missing)]
        refine congrArg Except.ok (classifyDriver_eq_iff.mpr fun bound => ⟨fun empty => ?_, fun empty => ?_⟩)
        · by_contra some
          exact sealed ⟨clear, .inr ⟨bound, missing, some, empty⟩⟩
        · rw [empty]
          rfl
    | some file =>
        by_cases elsewhere : missingIn host (shownModule res boundDriver)
          (kb.entryByName res.chipsetId.chipset) (accepted failures) = some file
        · rw [verdict_missing clear missing, verdict_missing clear elsewhere]
        · have reported := reported_of_elsewhere missing elsewhere
          by_contra different
          refine sealed ⟨clear, .inl ⟨file, reported, elsewhere, fun other failure kept fails fails' => ?_⟩⟩
          rw [verdict_missing clear missing, verdict_missing clear kept, fails, fails'] at different
          exact different rfl
  · rw [verdict_unclear clear, verdict_unclear clear]

theorem classify_kept_eq_iff {kb : Option Kb} :
    classify machine res boundDriver (keptLines dmesgLines) modprobeD host managers kb =
        classify machine res boundDriver dmesgLines modprobeD host managers kb ↔
      ∀ failures, dmesgFirmwareFailures dmesgLines = .ok failures →
        ¬ Leaks machine res boundDriver modprobeD host managers (kb.getD machine.chipsetKb) failures := by
  rw [classify_eq, classify_eq, dmesgFirmwareFailures_kept]
  cases dmesgFirmwareFailures dmesgLines with
  | error failure => exact ⟨fun _ _ read => (nomatch read), fun _ => rfl⟩
  | ok failures =>
      constructor
      · intro same others read leaks
        cases read
        obtain ⟨clear, ⟨file, blames⟩ | scars⟩ := leaks
        · exact verdict_accepted_ne_of_blames clear blames same
        · exact verdict_accepted_ne_of_scars clear scars same
      · intro sealed
        exact verdict_accepted_eq (sealed failures rfl)

/-- Deleting the lines with a name that the parser marks invalid keeps the diagnosis just when
none of them leaks. -/
theorem classify_withoutMarked_eq_iff {kb : Option Kb} :
    classify machine res boundDriver (withoutMarked dmesgLines) modprobeD host managers kb =
        classify machine res boundDriver dmesgLines modprobeD host managers kb ↔
      ∀ failures, dmesgFirmwareFailures dmesgLines = .ok failures →
        ¬ Leaks machine res boundDriver modprobeD host managers (kb.getD machine.chipsetKb) failures := by
  cases parsed : parseDmesgFirmwareFailures dmesgLines with
  | ok found =>
      rw [withoutMarked_eq parsed]
      exact classify_kept_eq_iff
  | error failure =>
      have read := dmesgFirmwareFailures_eq_parsed dmesgLines
      rw [parsed] at read
      rw [withoutMarked, parsed]
      exact ⟨fun _ others read' => (nomatch read.symm.trans read'), fun _ => rfl⟩

end Leaks

/-- A refused path with an innocent last component condemns a working device. -/
theorem rejected_name_condemns :
    @withoutMarked asciiInterpreter [failureLine "../../mt7601u.bin"] = [] ∧
      (∃ diagnosis, @classify asciiInterpreter bareMachine mt7601uInput (some "mt7601u")
          [failureLine "../../mt7601u.bin"] [] none none (some mt7601uKb) = .ok diagnosis ∧
        diagnosis.state = .cFirmwareMissing) ∧
      ∃ diagnosis, @classify asciiInterpreter bareMachine mt7601uInput (some "mt7601u")
          [] [] none none (some mt7601uKb) = .ok diagnosis ∧ diagnosis.state = .aWorking :=
  ⟨by decide, ⟨_, rfl, rfl⟩, ⟨_, rfl, rfl⟩⟩

end DongleRescue.Diagnostics
