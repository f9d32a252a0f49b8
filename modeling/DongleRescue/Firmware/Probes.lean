import DongleRescue.Firmware.Presence

namespace DongleRescue.Firmware

open DongleRescue.Data DongleRescue.Posix

/-! What a presence check asks of the host, and what it concludes from answers and
failures of any kind: present, absent, or unknown. -/

section Kleene

def kleeneOr : Option Bool → Option Bool → Option Bool
  | some true, _ => some true
  | _, some true => some true
  | some false, second => second
  | none, _ => none

def kleeneAny (values : List (Option Bool)) : Option Bool := values.foldr kleeneOr (some false)

theorem kleeneAny_cons (value : Option Bool) (values : List (Option Bool)) :
    kleeneAny (value :: values) = kleeneOr value (kleeneAny values) := rfl

@[simp] theorem kleeneOr_true (second : Option Bool) : kleeneOr (some true) second = some true := rfl

@[simp] theorem kleeneOr_false (second : Option Bool) : kleeneOr (some false) second = second := by
  match second with
  | none => rfl
  | some true => rfl
  | some false => rfl

@[simp] theorem kleeneOr_none_none (second : Option Bool) :
    kleeneOr none (kleeneOr none second) = kleeneOr none second := by
  match second with
  | none => rfl
  | some true => rfl
  | some false => rfl

theorem kleeneOr_eq_some_true_iff {first second : Option Bool} :
    kleeneOr first second = some true ↔ first = some true ∨ second = some true := by
  match first, second with
  | some true, _ => simp
  | some false, second => simp
  | none, none => simp [kleeneOr]
  | none, some true => simp [kleeneOr]
  | none, some false => simp [kleeneOr]

theorem kleeneOr_eq_some_false_iff {first second : Option Bool} :
    kleeneOr first second = some false ↔ first = some false ∧ second = some false := by
  match first, second with
  | some true, _ => simp
  | some false, second => simp
  | none, none => simp [kleeneOr]
  | none, some true => simp [kleeneOr]
  | none, some false => simp [kleeneOr]

variable {values : List (Option Bool)}

theorem kleeneAny_eq_some_true_iff : kleeneAny values = some true ↔ some true ∈ values := by
  induction values with
  | nil => simp [kleeneAny]
  | cons value values ih => rw [kleeneAny_cons, kleeneOr_eq_some_true_iff, ih, List.mem_cons, eq_comm]

theorem kleeneAny_eq_some_false_iff : kleeneAny values = some false ↔ ∀ value ∈ values, value = some false := by
  induction values with
  | nil => simp [kleeneAny]
  | cons value values ih => rw [kleeneAny_cons, kleeneOr_eq_some_false_iff, ih, List.forall_mem_cons]

theorem kleeneAny_eq_none_iff : kleeneAny values = none ↔ some true ∉ values ∧ none ∈ values := by
  rw [← kleeneAny_eq_some_true_iff]
  constructor
  · intro unknown
    refine ⟨by simp [unknown], ?_⟩
    by_contra decided
    have untrue : some true ∉ values := by simp [← kleeneAny_eq_some_true_iff, unknown]
    have false_ : kleeneAny values = some false := by
      refine kleeneAny_eq_some_false_iff.mpr fun value member => ?_
      match value, member with
      | none, member => exact absurd member decided
      | some true, member => exact absurd member untrue
      | some false, _ => rfl
    rw [false_] at unknown
    cases unknown
  · intro ⟨untrue, unknown⟩
    cases decided : kleeneAny values with
    | none => rfl
    | some value =>
        cases value with
        | true => exact absurd decided untrue
        | false => cases kleeneAny_eq_some_false_iff.mp decided none unknown

end Kleene

inductive HostCall where
  | «exists» (path : Str)
  | resolveRealpath (path : Str)
deriving DecidableEq

/-- The hosts answer, or fail, alike. -/
def HostCall.Alike (first second : Host) : HostCall → Prop
  | .exists path => first.exists path = second.exists path
  | .resolveRealpath path => first.resolveRealpath path = second.resolveRealpath path

/-- The calls of one probe: the real path is asked for a file that exists. -/
def probeCalls (host : Host) (full : Str) : List HostCall :=
  match host.exists full with
  | .ok true => [.exists full, .resolveRealpath full]
  | _ => [.exists full]

/-- The calls of the loop over the forms, which ends at the first contained one. -/
def formCalls (host : Host) (base canon : Str) : List (Str × Str) → List HostCall
  | [] => []
  | (suffix, _) :: rest =>
      let full := candidatePath base canon suffix
      probeCalls host full ++
        if existsUnderRoot host full base = some true then [] else formCalls host base canon rest

def presenceCalls [Interpreter] (host : Host) (relPath root : Str) : List HostCall :=
  if !fwNameValid relPath then []
  else match requireFirmwarePath relPath with
    | .ok canon => formCalls host (rstripSlashes root) canon firmwareForms
    | .error _ => []

section Calls

variable {host other : Host} {full root base canon : Str}

theorem existsUnderRoot_congr (alike : ∀ call ∈ probeCalls host full, call.Alike host other) :
    existsUnderRoot host full root = existsUnderRoot other full root := by
  rw [existsUnderRoot, existsUnderRoot]
  rw [probeCalls] at alike
  cases present : host.exists full with
  | error failure =>
      rw [present] at alike
      have same : host.exists full = other.exists full := alike (.exists full) (by simp)
      rw [← same, present]
  | ok found =>
      rw [present] at alike
      cases found with
      | false =>
          have same : host.exists full = other.exists full := alike (.exists full) (by simp)
          rw [← same, present]
      | true =>
          have same : host.exists full = other.exists full := alike (.exists full) (by simp)
          have sameReal : host.resolveRealpath full = other.resolveRealpath full :=
            alike (.resolveRealpath full) (by simp)
          rw [← same, present, sameReal]

theorem probeForms_congr {indeterminate : Bool} {forms : List (Str × Str)}
    (alike : ∀ call ∈ formCalls host base canon forms, call.Alike host other) :
    probeForms host base canon indeterminate forms = probeForms other base canon indeterminate forms := by
  induction forms generalizing indeterminate with
  | nil => rfl
  | cons form forms ih =>
      obtain ⟨suffix, name⟩ := form
      rw [formCalls] at alike
      simp only [List.forall_mem_append] at alike
      obtain ⟨here, later⟩ := alike
      have same : existsUnderRoot host (candidatePath base canon suffix) base =
          existsUnderRoot other (candidatePath base canon suffix) base := existsUnderRoot_congr here
      rw [probeForms, probeForms, ← same]
      cases state : existsUnderRoot host (candidatePath base canon suffix) base with
      | none =>
          rw [state, if_neg (by decide)] at later
          exact ih later
      | some contained =>
          cases contained with
          | true => rfl
          | false =>
              rw [state, if_neg (by decide)] at later
              exact ih later

/-- The check depends on the host through the answers to these calls alone. -/
theorem checkFirmwarePresence_congr [Interpreter] {module relPath : Str}
    (alike : ∀ call ∈ presenceCalls host relPath root, call.Alike host other) :
    checkFirmwarePresence host module relPath root = checkFirmwarePresence other module relPath root := by
  cases valid : fwNameValid relPath with
  | false =>
      rw [checkFirmwarePresence, checkFirmwarePresence]
      rw [valid]
      rfl
  | true =>
      rw [presenceCalls, valid, requireFirmwarePath_of_fwNameValid valid] at alike
      rw [checkFirmwarePresence_eq valid, checkFirmwarePresence_eq valid, presenceStatus, presenceStatus,
        probeForms_congr alike]

theorem presenceCalls_eq_nil_iff [Interpreter] {relPath : Str} :
    presenceCalls host relPath root = [] ↔ fwNameValid relPath = false := by
  cases valid : fwNameValid relPath with
  | false => simp [presenceCalls, valid]
  | true =>
      rw [presenceCalls, valid, requireFirmwarePath_of_fwNameValid valid]
      have asked : ∀ full, probeCalls host full ≠ [] := by
        intro full
        rw [probeCalls]
        split <;> exact List.cons_ne_nil _ _
      constructor
      · intro none
        exact absurd (List.append_eq_nil_iff.mp none).1 (asked _)
      · intro invalid
        cases invalid

end Calls

section Verdicts

variable {host : Host} {root canon : Str} {form : Str × Str}

/-- The form exists, and the host reports its real path below the root. -/
def Contained (host : Host) (root canon : Str) (form : Str × Str) : Prop :=
  host.exists (candidatePath (rstripSlashes root) canon form.1) = .ok true ∧
    ∃ real, host.resolveRealpath (candidatePath (rstripSlashes root) canon form.1) = .ok real ∧
      startsWith real (rstripSlashes root ++ ['/']) = true

/-- One of the calls of the form's probe fails. -/
def ProbeFails (host : Host) (root canon : Str) (form : Str × Str) : Prop :=
  (∃ failure, host.exists (candidatePath (rstripSlashes root) canon form.1) = .error failure) ∨
    host.exists (candidatePath (rstripSlashes root) canon form.1) = .ok true ∧
      ∃ failure, host.resolveRealpath (candidatePath (rstripSlashes root) canon form.1) = .error failure

def formState (host : Host) (root canon : Str) (form : Str × Str) : Option Bool :=
  existsUnderRoot host (candidatePath (rstripSlashes root) canon form.1) (rstripSlashes root)

theorem contained_iff : Contained host root canon form ↔ formState host root canon form = some true := by
  rw [formState, existsUnderRoot_answers.1, rstripSlashes_rstripSlashes]
  rfl

theorem probeFails_iff : ProbeFails host root canon form ↔ formState host root canon form = none := by
  rw [formState, existsUnderRoot_answers.2]
  rfl

def formStates (host : Host) (root canon : Str) (forms : List (Str × Str)) : List (Option Bool) :=
  forms.map (formState host root canon)

/-- The loop finds the first contained form; where there is none, a failure sticks. -/
theorem probeForms_eq {indeterminate : Bool} {forms : List (Str × Str)} :
    (probeForms host (rstripSlashes root) canon indeterminate forms).1 =
        forms.find? (fun form => formState host root canon form = some true) ∧
      (if (probeForms host (rstripSlashes root) canon indeterminate forms).1.isSome then some true
        else if (probeForms host (rstripSlashes root) canon indeterminate forms).2 then none
        else some false) =
        kleeneOr (if indeterminate then none else some false) (kleeneAny (formStates host root canon forms)) := by
  induction forms generalizing indeterminate with
  | nil => cases indeterminate <;> exact ⟨rfl, rfl⟩
  | cons form forms ih =>
      obtain ⟨suffix, name⟩ := form
      have here : existsUnderRoot host (candidatePath (rstripSlashes root) canon suffix)
          (rstripSlashes root) = formState host root canon (suffix, name) := rfl
      have states : formStates host root canon ((suffix, name) :: forms) =
          formState host root canon (suffix, name) :: formStates host root canon forms := rfl
      have absorbed : ∀ rest, kleeneOr (if indeterminate then none else some false) (kleeneOr none rest) =
          kleeneOr none rest := by
        intro rest
        cases indeterminate <;> simp
      have decided : kleeneOr (if indeterminate then none else some false) (some true) = some true := by
        cases indeterminate <;> rfl
      rw [probeForms, here, List.find?_cons, states, kleeneAny_cons]
      cases state : formState host root canon (suffix, name) with
      | none =>
          rw [absorbed]
          exact @ih true
      | some contained =>
          cases contained with
          | false =>
              rw [kleeneOr_false]
              exact ih
          | true =>
              rw [kleeneOr_true, decided]
              exact ⟨rfl, rfl⟩

/-- What each of the three answers means. -/
structure Honest (host : Host) (root canon : Str) (st : FirmwareStatus) : Prop where
  path : st.normalizedPath = some canon
  present : st.installed = some true ↔ ∃ form ∈ firmwareForms, Contained host root canon form
  found : ∀ name, st.foundForm = some name ↔ ∃ earlier form later,
    firmwareForms = earlier ++ form :: later ∧ form.2 = name ∧ Contained host root canon form ∧
      ∀ other ∈ earlier, ¬ Contained host root canon other
  unknown : st.installed = none ↔ (∀ form ∈ firmwareForms, ¬ Contained host root canon form) ∧
    ∃ form ∈ firmwareForms, ProbeFails host root canon form
  absent : st.installed = some false ↔ ∀ form ∈ firmwareForms,
    ¬ Contained host root canon form ∧ ¬ ProbeFails host root canon form

/-- The answer is the disjunction of the three probes. -/
theorem presenceStatus_parts {module : Str} :
    (presenceStatus host module canon (rstripSlashes root)).normalizedPath = some canon ∧
    (presenceStatus host module canon (rstripSlashes root)).foundForm =
      (firmwareForms.find? fun form => formState host root canon form = some true).map Prod.snd ∧
    (presenceStatus host module canon (rstripSlashes root)).installed =
      kleeneAny (formStates host root canon firmwareForms) := by
  obtain ⟨first, verdict⟩ := @probeForms_eq host root canon false firmwareForms
  have start : kleeneOr (if false = true then none else some false)
      (kleeneAny (formStates host root canon firmwareForms)) = _ := kleeneOr_false _
  rw [start] at verdict
  rw [← first, ← verdict, presenceStatus]
  split
  · rename_i result
    simp [result]
  · rename_i result
    simp [result]
  · rename_i result
    simp [result]

theorem presenceStatus_honest {module : Str} :
    Honest host root canon (presenceStatus host module canon (rstripSlashes root)) := by
  obtain ⟨path, foundForm, installed⟩ := @presenceStatus_parts host root canon module
  have contained : some true ∈ formStates host root canon firmwareForms ↔
      ∃ form ∈ firmwareForms, Contained host root canon form := by
    simp only [formStates, List.mem_map, contained_iff]
  have failed : none ∈ formStates host root canon firmwareForms ↔
      ∃ form ∈ firmwareForms, ProbeFails host root canon form := by
    simp only [formStates, List.mem_map, probeFails_iff]
  refine ⟨path, ?_, ?_, ?_, ?_⟩
  · rw [installed, kleeneAny_eq_some_true_iff, contained]
  · intro name
    rw [foundForm, Option.map_eq_some_iff]
    simp only [List.find?_eq_some_iff_append, decide_eq_true_eq, Bool.not_eq_true', decide_eq_false_iff_not,
      ← contained_iff]
    constructor
    · intro ⟨form, ⟨holds, earlier, later, split, others⟩, named⟩
      exact ⟨earlier, form, later, split, named, holds, others⟩
    · intro ⟨earlier, form, later, split, named, holds, others⟩
      exact ⟨form, ⟨holds, earlier, later, split, others⟩, named⟩
  · rw [installed, kleeneAny_eq_none_iff, contained, failed]
    simp only [not_exists, not_and]
  · rw [installed, kleeneAny_eq_some_false_iff, formStates, List.forall_mem_map]
    refine forall₂_congr fun form _ => ?_
    rw [contained_iff, probeFails_iff]
    cases formState host root canon form with
    | none => simp
    | some value => cases value <;> simp

/-- Whatever the host answers: no exception, and each of the three answers means what it
says.  A name outside the grammar is unknown, and the host is not asked; the answer depends on
the host through the listed calls alone. -/
theorem checkFirmwarePresence_three_valued [Interpreter] (host : Host) (module relPath root : Str) :
    ∃ st, checkFirmwarePresence host module relPath root = .ok st ∧
      ((st.installed = none ∧ st.normalizedPath = none ∧ presenceCalls host relPath root = []) ↔
        fwNameValid relPath = false) ∧
      (fwNameValid relPath = true → ∃ canon, requireFirmwarePath relPath = .ok canon ∧
        Honest host root canon st) ∧
      ∀ other, (∀ call ∈ presenceCalls host relPath root, call.Alike host other) →
        checkFirmwarePresence other module relPath root = .ok st := by
  have asked : ∀ {st other}, checkFirmwarePresence host module relPath root = .ok st →
      (∀ call ∈ presenceCalls host relPath root, HostCall.Alike host other call) →
      checkFirmwarePresence other module relPath root = .ok st := by
    intro st other checked alike
    rw [← checkFirmwarePresence_congr alike, checked]
  cases valid : fwNameValid relPath with
  | false =>
      have checked : checkFirmwarePresence host module relPath root = .ok _ := if_pos (by simp [valid])
      refine ⟨_, checked, ⟨fun _ => rfl, fun _ => ⟨rfl, rfl, ?_⟩⟩, fun impossible => ?_, fun _ => asked checked⟩
      · exact presenceCalls_eq_nil_iff.mpr valid
      · cases impossible
  | true =>
      have checked := @checkFirmwarePresence_eq host _ module relPath root valid
      have honest : Honest host root (normpath relPath)
          (presenceStatus host module (normpath relPath) (rstripSlashes root)) := presenceStatus_honest
      refine ⟨_, checked, ⟨fun unasked => ?_, fun invalid => ?_⟩, fun _ =>
        ⟨_, requireFirmwarePath_of_fwNameValid valid, honest⟩, fun _ => asked checked⟩
      · rw [honest.path] at unasked
        cases unasked.2.1
      · cases invalid

end Verdicts

end DongleRescue.Firmware
