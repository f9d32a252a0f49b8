import DongleRescue.Cli.Rollback
import DongleRescue.Data.Cells

namespace DongleRescue.Cli

open DongleRescue.Data DongleRescue.Posix DongleRescue.Repair

/-! Repairs and rollbacks in any order.  The tool prints; the user runs the printed
persistence command, records its transaction, and removes what a rollback names. -/

variable [Interpreter]

structure System where
  files : Files
  journal : Journal.Content

inductive Action where
  | repair (device : UsbDevice) (kb : Kb) (boundDriver loadedModule : Option Str)
  | rollback (wanted : Str)

/-- A plan that is not feasible has no command to run and nothing to record. -/
def carryOut (plan : Plan) (system : System) : Option System :=
  match plan.commands[1]?, plan.transaction with
  | some command, some transaction =>
      (runLine command system.files).map (⟨·, Journal.append system.journal transaction⟩)
  | _, _ => some system

/-- The steps that the rollback command prints, none where no transaction is named. -/
def rollbackSteps (loads : Loads) (content : Journal.Content) (wanted : Str) :
    Py (List RollbackStep) := do
  let records ← Journal.load loads content
  match ← matching wanted records with
  | [] => return []
  | rec :: _ => planRollback rec

def System.step (loads : Loads) (system : System) : Action → Option System
  | .repair device kb boundDriver loadedModule =>
      match planStateB device kb boundDriver loadedModule with
      | .ok plan => carryOut plan system
      -- A plan that raises prints no command, so there is nothing that could be run or fail.
      | .error _ => some system
  | .rollback wanted =>
      match rollbackSteps loads system.journal wanted with
      | .ok steps => (applySteps system.files steps).map (⟨·, system.journal⟩)
      | .error _ => none

def System.run (loads : Loads) (system : System) (actions : List Action) : Option System :=
  actions.foldlM (System.step loads) system

/-- A repair that was planned. -/
structure Binding where
  vid : Str
  pid : Str
  module : Str
  vidHex : IsHex4 vid
  pidHex : IsHex4 pid
  valid : isModuleName module = true

namespace Binding

def path (binding : Binding) : Str := confPath binding.vid binding.pid

/-- What the persistence command adds to the file. -/
def text (binding : Binding) : Str :=
  bindComment binding.vid binding.pid ++ aliasLine binding.vid binding.pid binding.module

def transaction (binding : Binding) : TransactionRecord :=
  bindTransaction binding.vid binding.pid binding.module

def id (binding : Binding) : Str := Interpreter.sha256 (hashed binding.transaction)

def step (binding : Binding) : RollbackStep := removeConfStep binding.vid binding.pid

theorem created (binding : Binding) : Created binding.transaction := by
  have existence : (["kind", "path", "existed", "sha256"] : List Str).Nodup := by decide
  have content : (["op", "content"] : List Str).Nodup := by decide
  have digest : (["kind", "path", "existed", "content_sha256"] : List Str).Nodup := by decide
  have removal : (["op", "path", "restore_if_existed"] : List Str).Nodup := by decide
  have before : (beforeState binding.vid binding.pid).DistinctKeys :=
    ⟨existence, trivial, trivial, trivial, trivial, trivial⟩
  have change : (aliasChange binding.vid binding.pid binding.module).DistinctKeys :=
    ⟨content, trivial, trivial, trivial⟩
  have after : (afterState binding.vid binding.pid binding.module).DistinctKeys :=
    ⟨digest, trivial, trivial, trivial, trivial, trivial⟩
  have rollback : (removeConf binding.vid binding.pid).DistinctKeys :=
    ⟨removal, trivial, trivial, ⟨by decide, trivial, trivial⟩, trivial⟩
  exact ⟨⟨_, before⟩, ⟨_, change⟩, ⟨_, after⟩, ⟨_, rollback⟩, rfl⟩

end Binding

omit [Interpreter] in
theorem vid_isHex4 (device : UsbDevice) : IsHex4 device.vid := device.vidHex.1

omit [Interpreter] in
theorem pid_isHex4 (device : UsbDevice) : IsHex4 device.pid := device.pidHex.1

/-- The binding a feasible plan is for. -/
def plannedBinding (device : UsbDevice) (kb : Kb) (boundDriver loadedModule : Option Str) :
    Option Binding :=
  match planStateB device kb boundDriver loadedModule with
  | .error _ => none
  | .ok plan =>
      if plan.feasible then do
        let entry ← findEntry kb device.vid device.pid
        let module ← chosenModule entry boundDriver loadedModule
        if valid : isModuleName module = true then
          some ⟨device.vid, device.pid, module, vid_isHex4 device, pid_isHex4 device, valid⟩
        else none
      else none

section Planned

variable {device : UsbDevice} {kb : Kb} {boundDriver loadedModule : Option Str} {plan : Plan}
  {binding : Binding}

theorem plannedBinding_of_feasible (planned : planStateB device kb boundDriver loadedModule = .ok plan)
    (feasible : plan.feasible = true) :
    ∃ binding, plannedBinding device kb boundDriver loadedModule = some binding ∧
      binding.path = confPath device.vid device.pid ∧
      plan.filesAffected = [binding.path] ∧ plan.transaction = some binding.transaction ∧
      ∃ command, plan.commands[1]? = some command ∧
        ∀ files, runLine command files = some (files.append binding.path binding.text) := by
  obtain ⟨entry, module, chipset, confidence, found, _, chosen, valid, same⟩ :=
    planStateB_feasible planned feasible
  subst plan
  refine ⟨⟨device.vid, device.pid, module, vid_isHex4 device, pid_isHex4 device, valid⟩, ?_, rfl, rfl, rfl,
    _, rfl, runLine_persistCommand device.vidHex.1 device.pidHex.1 valid⟩
  simp only [plannedBinding, planned, found, chosen, Option.bind_eq_bind, Option.bind_some]
  rw [if_pos feasible, dif_pos valid]

theorem plan_eq_of_infeasible (planned : planStateB device kb boundDriver loadedModule = .ok plan)
    (infeasible : plan.feasible = false) (system : System) : carryOut plan system = some system := by
  cases planStateB_planned planned with
  | unknown missing => rfl
  | refused found refused => rfl
  | bind found feasible chosen valid => cases infeasible

theorem carryOut_planned (planned : planStateB device kb boundDriver loadedModule = .ok plan)
    (system : System) :
    carryOut plan system = some (match plannedBinding device kb boundDriver loadedModule with
      | some binding => ⟨system.files.append binding.path binding.text,
          Journal.append system.journal binding.transaction⟩
      | none => system) := by
  cases feasible : plan.feasible with
  | true =>
      obtain ⟨binding, same, _, _, recorded, command, second, ran⟩ :=
        plannedBinding_of_feasible planned feasible
      rw [same, carryOut, second, recorded]
      simp only [ran, Option.map_some]
  | false =>
      have none : plannedBinding device kb boundDriver loadedModule = none := by
        simp only [plannedBinding, planned, feasible, Bool.false_eq_true, if_false]
      rw [none, plan_eq_of_infeasible planned feasible]

def goldenBinding : Binding where
  vid := "0bda"
  pid := "8811"
  module := "rtw_8821cu"
  vidHex := by decide
  pidHex := by decide
  valid := by decide

theorem plannedBinding_golden :
    plannedBinding goldenDevice goldenKb none none = some goldenBinding := by
  have planned : planStateB goldenDevice goldenKb none none = .ok (goldenPlan "rtw_8821cu") :=
    planStateB_golden rfl (by decide)
  rw [plannedBinding, planned]
  rfl

end Planned

/-- What a run amounts to: the files, and the repairs in the order they were made. -/
structure Ledger where
  files : Files
  applied : List Binding

namespace Ledger

/-- The repair that an argument of the rollback command names: the first whose id begins so. -/
def named (ledger : Ledger) (wanted : Str) : Option Binding :=
  ledger.applied.find? fun binding => startsWith binding.id wanted

def step (ledger : Ledger) : Action → Ledger
  | .repair device kb boundDriver loadedModule =>
      match plannedBinding device kb boundDriver loadedModule with
      | some binding => ⟨ledger.files.append binding.path binding.text, ledger.applied ++ [binding]⟩
      | none => ledger
  | .rollback wanted =>
      match ledger.named wanted with
      | some binding => ⟨ledger.files.remove binding.path, ledger.applied⟩
      | none => ledger

def run (ledger : Ledger) (actions : List Action) : Ledger := actions.foldl step ledger

def system (ledger : Ledger) : System where
  files := ledger.files
  journal := (ledger.applied.map Binding.transaction).foldl Journal.append none

variable {loads : Loads}

theorem load_system (inverts : Inverts loads) (ledger : Ledger) :
    ∃ records, Journal.load loads ledger.system.journal = .ok records ∧
      List.Forall₂ (fun binding rec => RecordSame (Binding.transaction binding) rec) ledger.applied
        records := by
  have created : ∀ rec ∈ ledger.applied.map Binding.transaction, rec.toDict.DistinctKeys := by
    intro rec member
    obtain ⟨binding, _, same⟩ := List.mem_map.mp member
    rw [← same]
    exact binding.created.distinct
  obtain ⟨records, read, same⟩ := Journal.load_run inverts created
  exact ⟨records, read, List.forall₂_map_left_iff.mp same⟩

theorem named_of_same {binding : Binding} {rec : TransactionRecord}
    (same : RecordSame binding.transaction rec) (wanted : Str) :
    Cli.named wanted rec = startsWith binding.id wanted := by
  rw [Cli.named, binding.created.readId same]
  rfl

/-- The rollback command finds in the journal the repair that the argument names. -/
theorem matching_system (inverts : Inverts loads) (ledger : Ledger) (wanted : Str) :
    ∃ records found, Journal.load loads ledger.system.journal = .ok records ∧
      matching wanted records = .ok found ∧
      ((ledger.named wanted = none ∧ found = []) ∨
        ∃ binding rec others, ledger.named wanted = some binding ∧ found = rec :: others ∧
          RecordSame binding.transaction rec) := by
  obtain ⟨records, read, same⟩ := ledger.load_system inverts
  have texts : ∀ rec ∈ records, ∃ text, rec.transactionId = .str text := by
    intro rec member
    obtain ⟨binding, _, sameRecord⟩ := exists_of_mem_right same member
    exact ⟨_, binding.created.readId sameRecord⟩
  refine ⟨records, records.filter (Cli.named wanted), read, matching_ok_iff.mpr ⟨texts, rfl⟩, ?_⟩
  have agree : ∀ binding rec, RecordSame (Binding.transaction binding) rec →
      startsWith binding.id wanted = Cli.named wanted rec :=
    fun binding rec sameRecord => (named_of_same sameRecord wanted).symm
  rcases find?_of_forall₂ same agree with ⟨none, none'⟩ | ⟨binding, rec, found, found', sameRecord⟩
  · exact .inl ⟨none, List.filter_eq_nil_iff.mpr fun rec member => List.find?_eq_none.mp none' rec member⟩
  · rw [← List.head?_filter] at found'
    exact .inr ⟨binding, rec, _, found, (List.cons_head?_tail found').symm, sameRecord⟩

theorem rollbackSteps_system (inverts : Inverts loads) (ledger : Ledger) (wanted : Str) :
    rollbackSteps loads ledger.system.journal wanted =
      .ok (((ledger.named wanted).map Binding.step).toList) := by
  obtain ⟨records, found, read, matched, cases⟩ := ledger.matching_system inverts wanted
  simp only [rollbackSteps, read, bind, Except.bind, matched]
  rcases cases with ⟨none, empty⟩ | ⟨binding, rec, others, first, split, same⟩
  · rw [none, empty]
    rfl
  · rw [first, split]
    exact planRollback_of_same binding.vidHex binding.pidHex same.rollbackAction

/-- Files and journal take the step that the ledger takes. -/
theorem step_system (inverts : Inverts loads) (ledger : Ledger) (action : Action) :
    ledger.system.step loads action = some (ledger.step action).system := by
  cases action with
  | repair device kb boundDriver loadedModule =>
      have recorded : ∀ binding, (⟨ledger.files.append binding.path binding.text,
          Journal.append ledger.system.journal binding.transaction⟩ : System) =
          (⟨ledger.files.append binding.path binding.text, ledger.applied ++ [binding]⟩ : Ledger).system := by
        intro binding
        simp only [system, List.map_append, List.map_cons, List.map_nil, List.foldl_append,
          List.foldl_cons, List.foldl_nil]
      rw [System.step, step]
      cases planned : planStateB device kb boundDriver loadedModule with
      | error failure =>
          have none : plannedBinding device kb boundDriver loadedModule = none := by
            simp only [plannedBinding, planned]
          rw [none]
      | ok plan =>
          simp only [carryOut_planned planned]
          cases plannedBinding device kb boundDriver loadedModule with
          | none => rfl
          | some binding => exact congrArg some (recorded binding)
  | rollback wanted =>
      rw [System.step, step, rollbackSteps_system inverts]
      cases ledger.named wanted with
      | none => rfl
      | some binding => rfl

theorem run_system (inverts : Inverts loads) (ledger : Ledger) (actions : List Action) :
    ledger.system.run loads actions = some (ledger.run actions).system := by
  induction actions generalizing ledger with
  | nil => rfl
  | cons action actions ih =>
      rw [System.run, List.foldlM_cons, step_system inverts ledger action]
      exact ih (ledger.step action)

/-- The rollback command prints the removal of the repair that its argument names. -/
theorem cmdRollback_system (inverts : Inverts loads) (ledger : Ledger) (wanted : Str) (rest : List Str)
    {journalPath : Str} (configured : journalPath ≠ []) :
    cmdRollback loads ledger.system.journal (wanted :: rest) (some journalPath) =
      .ok (match ledger.named wanted with
        | some binding => (exitOk, rollbackText (binding.id.take 12) [binding.step])
        | none => (exitNotFound, "rollback: transaction " ++ wanted.take 12 ++ " not found\n")) := by
  obtain ⟨records, found, read, matched, cases⟩ := ledger.matching_system inverts wanted
  have available : truthy (some journalPath) = true := truthy_iff.mpr ⟨_, rfl, configured⟩
  simp only [cmdRollback, rollbackWith, available, Bool.not_true, Bool.false_eq_true, if_false, read, bind,
    Except.bind, matched]
  rcases cases with ⟨none, empty⟩ | ⟨binding, rec, others, first, split, same⟩
  · rw [none, empty]
    rfl
  · simp only [first, split, planRollback_of_same binding.vidHex binding.pidHex same.rollbackAction,
      binding.created.readId same]
    rfl

end Ledger

/-- In any order of repairs and rollbacks every printed persistence command runs and every rollback
goes through; a repair that prints no command changes nothing.  The files and the journal are those
of the ledger, the journal reads back as the repairs made, each with the id of its content, and the
command then prints the removal of the first of them that its argument names. -/
theorem run_refines_ledger {loads : Loads} (inverts : Inverts loads) (files : Files) (actions : List Action) :
    ∃ ledger : Ledger, ledger = (Ledger.mk files []).run actions ∧
      System.run loads ⟨files, none⟩ actions = some ledger.system ∧
      (∃ records, Journal.load loads ledger.system.journal = .ok records ∧
        List.Forall₂ RecordSame (ledger.applied.map Binding.transaction) records ∧
        ∀ rec ∈ records, SelfVerifying rec) ∧
      ∀ wanted rest journalPath, journalPath ≠ [] →
        cmdRollback loads ledger.system.journal (wanted :: rest) (some journalPath) =
          .ok (match ledger.named wanted with
            | some binding => (exitOk, rollbackText (binding.id.take 12) [binding.step])
            | none => (exitNotFound, "rollback: transaction " ++ wanted.take 12 ++ " not found\n")) := by
  refine ⟨_, rfl, Ledger.run_system inverts ⟨files, []⟩ actions, ?_,
    fun wanted rest journalPath configured => Ledger.cmdRollback_system inverts _ wanted rest configured⟩
  have created : ∀ rec ∈ ((Ledger.mk files []).run actions).applied.map Binding.transaction, Created rec := by
    intro rec member
    obtain ⟨binding, _, same⟩ := List.mem_map.mp member
    rw [← same]
    exact binding.created
  exact load_created inverts created

/-- A repair that is rolled back and made once more. -/
def goldenActions : List Action :=
  [.repair goldenDevice goldenKb none none, .rollback goldenBinding.id,
    .repair goldenDevice goldenKb none none]

theorem run_goldenActions (files : Files) : (Ledger.mk files []).run goldenActions =
    ⟨((files.append goldenBinding.path goldenBinding.text).remove goldenBinding.path).append
      goldenBinding.path goldenBinding.text, [goldenBinding, goldenBinding]⟩ := by
  have starts : startsWith goldenBinding.id goldenBinding.id = true := startsWith_iff.mpr ⟨[], by simp⟩
  have names : ∀ files, (Ledger.mk files [goldenBinding]).named goldenBinding.id = some goldenBinding :=
    fun files => List.find?_cons_of_pos starts
  simp only [Ledger.run, goldenActions, List.foldl_cons, List.foldl_nil, Ledger.step, plannedBinding_golden,
    List.nil_append, names, List.cons_append]

omit [Interpreter] in
theorem run_refines_ledger_golden :
    let _ : Interpreter := asciiInterpreter
    ∃ system, System.run readLoads ⟨fun _ => none, none⟩ goldenActions = some system ∧
      system.files goldenBinding.path = some goldenBinding.text := by
  intro _
  obtain ⟨ledger, same, ran, _⟩ := run_refines_ledger readLoads_laws.inverts (fun _ => none) goldenActions
  refine ⟨_, ran, ?_⟩
  rw [same, run_goldenActions]
  have last := Files.append_self
    ((Files.append (fun _ => none) goldenBinding.path goldenBinding.text).remove goldenBinding.path)
    goldenBinding.path goldenBinding.text
  rwa [Files.remove, Function.update_self] at last

section Undo

variable {loads : Loads} {ledger : Ledger} {binding other : Binding} {path : Str}

namespace Binding

theorem path_eq_of_hashed (same : hashed binding.transaction = hashed other.transaction) :
    binding.path = other.path := by
  obtain ⟨_, _, _, undo⟩ := (payload_eq_iff binding.created.parts other.created.parts).mp same
  have steps : planRollback other.transaction = .ok [other.step] :=
    planRollback_bindTransaction other.vidHex other.pidHex
  rw [planRollback_of_same binding.vidHex binding.pidHex undo] at steps
  have sameStep := List.singleton_inj.mp (Except.ok.inj steps)
  have sameAction := congrArg RollbackStep.action sameStep
  injection sameAction

end Binding

namespace Ledger

/-- No two repairs of the ledger have one digest and different contents. -/
def CollisionFree (bindings : List Binding) : Prop :=
  ∀ binding ∈ bindings, ∀ other ∈ bindings, binding.id = other.id →
    hashed binding.transaction = hashed other.transaction

theorem startsWith_id_iff (digests : ∀ text, (Interpreter.sha256 text).length = 64)
    (binding other : Binding) : startsWith binding.id other.id = true ↔ binding.id = other.id := by
  constructor
  · intro starts
    have isNamed : Cli.named other.id binding.transaction = true := by
      rw [Cli.named, binding.created.transactionId_eq]
      exact starts
    exact eq_of_named digests binding.created.transactionId_eq isNamed
  · intro same
    rw [same]
    exact startsWith_iff.mpr ⟨[], by simp⟩

/-- By its own id a repair names a repair of the same file. -/
theorem named_id (digests : ∀ text, (Interpreter.sha256 text).length = 64)
    (collisionFree : CollisionFree ledger.applied) (member : binding ∈ ledger.applied) :
    ∃ found, ledger.named binding.id = some found ∧ found.path = binding.path := by
  have some : (ledger.named binding.id).isSome := by
    rw [named, List.find?_isSome]
    exact ⟨binding, member, (startsWith_id_iff digests binding binding).mpr rfl⟩
  obtain ⟨found, first⟩ := Option.isSome_iff_exists.mp some
  refine ⟨found, first, ?_⟩
  have starts : startsWith found.id binding.id = true := by
    rw [named] at first
    exact List.find?_some (p := fun found => startsWith (Binding.id found) binding.id) first
  have sameId := (startsWith_id_iff digests found binding).mp starts
  exact Binding.path_eq_of_hashed
    (collisionFree found (List.mem_of_find?_eq_some first) binding member sameId)

theorem applied_subset_step (ledger : Ledger) (action : Action) :
    ledger.applied ⊆ (ledger.step action).applied := by
  cases action with
  | repair device kb boundDriver loadedModule =>
      rw [step]
      split
      · exact List.subset_append_left _ _
      · exact List.Subset.refl _
  | rollback wanted =>
      rw [step]
      split
      · exact List.Subset.refl _
      · exact List.Subset.refl _

theorem step_frame (ledger : Ledger) (action : Action)
    (outside : ∀ binding ∈ (ledger.step action).applied, binding.path ≠ path) :
    (ledger.step action).files path = ledger.files path := by
  cases action with
  | repair device kb boundDriver loadedModule =>
      rw [step] at outside ⊢
      split at outside
      · exact Function.update_of_ne (Ne.symm (outside _ (by simp))) _ _
      · rfl
  | rollback wanted =>
      rw [step] at outside ⊢
      split at outside
      · rename_i binding found
        exact Function.update_of_ne (Ne.symm (outside _ (List.mem_of_find?_eq_some found))) _ _
      · rfl

/-- Only the files of the repairs in the ledger change. -/
theorem run_frame (ledger : Ledger) (actions : List Action)
    (outside : ∀ binding ∈ (ledger.run actions).applied, binding.path ≠ path) :
    (ledger.run actions).files path = ledger.files path := by
  induction actions using List.reverseRecOn with
  | nil => rfl
  | append_singleton actions action ih =>
      have last : ledger.run (actions ++ [action]) = (ledger.run actions).step action := by
        rw [run, List.foldl_append]
        rfl
      rw [last] at outside ⊢
      rw [step_frame _ _ outside]
      exact ih fun binding member => outside binding (applied_subset_step _ _ member)

/-- Rolling back by the ids of `undone` removes their files and nothing else. -/
theorem run_rollbacks (digests : ∀ text, (Interpreter.sha256 text).length = 64)
    (collisionFree : CollisionFree ledger.applied) {undone : List Binding} (recorded : undone ⊆ ledger.applied) :
    ledger.run (undone.map fun binding => .rollback binding.id) =
      ⟨undone.foldl (fun files binding => files.remove binding.path) ledger.files, ledger.applied⟩ := by
  induction undone generalizing ledger with
  | nil => rfl
  | cons binding undone ih =>
      rw [List.cons_subset] at recorded
      obtain ⟨found, isNamed, samePath⟩ := named_id digests collisionFree recorded.1
      have first : ledger.step (.rollback binding.id) =
          ⟨ledger.files.remove binding.path, ledger.applied⟩ := by
        rw [step, isNamed, ← samePath]
      rw [List.map_cons, run, List.foldl_cons, first]
      exact ih collisionFree recorded.2

omit [Interpreter] in
theorem foldl_remove (bindings : List Binding) (files : Files) (path : Str) :
    bindings.foldl (fun files binding => files.remove binding.path) files path =
      if ∃ binding ∈ bindings, binding.path = path then none else files path := by
  induction bindings generalizing files with
  | nil => simp
  | cons binding bindings ih =>
      rw [List.foldl_cons, ih, Files.remove]
      by_cases here : binding.path = path
      · subst here
        simp
      · rw [Function.update_of_ne (Ne.symm here)]
        simp [here]

omit [Interpreter] in
private theorem exists_map_eq {α β : Type} {f : α → β} {source : List α} {target : List β}
    (covered : ∀ value ∈ target, ∃ origin ∈ source, f origin = value) :
    ∃ origins, origins ⊆ source ∧ origins.map f = target := by
  induction target with
  | nil => exact ⟨[], List.nil_subset _, rfl⟩
  | cons value target ih =>
      rw [List.forall_mem_cons] at covered
      obtain ⟨origin, member, here⟩ := covered.1
      obtain ⟨origins, inside, later⟩ := ih covered.2
      exact ⟨origin :: origins, List.cons_subset.mpr ⟨member, inside⟩, by rw [List.map_cons, here, later]⟩

/-- Rolling back by all ids of the ledger, in any order and as often as one likes. -/
theorem run_undo (digests : ∀ text, (Interpreter.sha256 text).length = 64)
    (collisionFree : CollisionFree ledger.applied) {wanteds : List Str}
    (covers : ∀ wanted, wanted ∈ wanteds ↔ ∃ binding ∈ ledger.applied, binding.id = wanted) :
    ∃ files, ledger.run (wanteds.map .rollback) = ⟨files, ledger.applied⟩ ∧ ∀ path, files path =
      if ∃ binding ∈ ledger.applied, binding.path = path then none else ledger.files path := by
  obtain ⟨undone, recorded, ids⟩ := exists_map_eq fun wanted => (covers wanted).mp
  have actions : wanteds.map Action.rollback = undone.map fun binding => .rollback binding.id := by
    rw [← ids, List.map_map]
    rfl
  have paths : ∀ path, (∃ binding ∈ undone, binding.path = path) ↔
      ∃ binding ∈ ledger.applied, binding.path = path := by
    intro path
    constructor
    · intro ⟨binding, member, samePath⟩
      exact ⟨binding, recorded member, samePath⟩
    · intro ⟨binding, member, samePath⟩
      have wantedId := (covers binding.id).mpr ⟨binding, member, rfl⟩
      rw [← ids] at wantedId
      obtain ⟨other, inUndone, sameId⟩ := List.mem_map.mp wantedId
      have sameText := collisionFree other (recorded inUndone) binding member sameId
      exact ⟨other, inUndone, (Binding.path_eq_of_hashed sameText).trans samePath⟩
  refine ⟨_, by rw [actions, run_rollbacks digests collisionFree recorded], fun path => ?_⟩
  rw [foldl_remove]
  simp only [paths]

end Ledger

/-- The files are as before but for some that are gone. -/
def Without (files : Files) (gone : Str → Prop) (after : Files) : Prop :=
  ∀ path, (gone path → after path = none) ∧ (¬ gone path → after path = files path)

omit [Interpreter] in
theorem Without.eq_iff {files after : Files} {gone : Str → Prop} (without : Without files gone after) :
    after = files ↔ ∀ path, gone path → files path = none := by
  constructor
  · intro same path isGone
    rw [← same]
    exact (without path).1 isGone
  · intro absent
    funext path
    by_cases isGone : gone path
    · rw [absent path isGone]
      exact (without path).1 isGone
    · exact (without path).2 isGone

/-- The one step of the record's rollback removes this file. -/
def Removes (rec : TransactionRecord) (path : Str) : Prop :=
  planRollback rec =
    .ok [⟨1, .removeFile path "restore only if before-state says it existed" .null, true⟩]

theorem removes_iff {rec : TransactionRecord} (same : RecordSame binding.transaction rec) :
    Removes rec path ↔ binding.path = path := by
  rw [Removes, planRollback_of_same binding.vidHex binding.pidHex same.rollbackAction]
  simp [removeConfStep, Binding.path]

section Records

variable {records : List TransactionRecord}
  (related : List.Forall₂ (fun binding rec => RecordSame (Binding.transaction binding) rec) ledger.applied records)
include related

theorem exists_removes_iff (path : Str) :
    (∃ rec ∈ records, Removes rec path) ↔ ∃ binding ∈ ledger.applied, binding.path = path := by
  constructor
  · intro ⟨rec, member, removes⟩
    obtain ⟨binding, inLedger, sameRecord⟩ := exists_of_mem_right related member
    exact ⟨binding, inLedger, (removes_iff sameRecord).mp removes⟩
  · intro ⟨binding, member, samePath⟩
    obtain ⟨rec, inRecords, sameRecord⟩ := exists_of_mem_left related member
    exact ⟨rec, inRecords, (removes_iff sameRecord).mpr samePath⟩

theorem exists_id_iff (wanted : Str) :
    (∃ rec ∈ records, rec.transactionId = .str wanted) ↔ ∃ binding ∈ ledger.applied, binding.id = wanted := by
  constructor
  · intro ⟨rec, member, wantedId⟩
    obtain ⟨binding, inLedger, sameRecord⟩ := exists_of_mem_right related member
    rw [binding.created.readId sameRecord] at wantedId
    exact ⟨binding, inLedger, Json.str.inj wantedId⟩
  · intro ⟨binding, member, sameId⟩
    obtain ⟨rec, inRecords, sameRecord⟩ := exists_of_mem_left related member
    exact ⟨rec, inRecords, (binding.created.readId sameRecord).trans (congrArg Json.str sameId)⟩

theorem collisionFree_of_records
    (collisionFree : ∀ rec ∈ records, ∀ other ∈ records, rec.transactionId = other.transactionId →
      hashed rec = hashed other) : Ledger.CollisionFree ledger.applied := by
  intro binding member other member' sameId
  obtain ⟨rec, inRecords, sameRecord⟩ := exists_of_mem_left related member
  obtain ⟨rec', inRecords', sameRecord'⟩ := exists_of_mem_left related member'
  have sameText := collisionFree rec inRecords rec' inRecords' (by
    rw [binding.created.readId sameRecord, other.created.readId sameRecord']
    exact congrArg Json.str sameId)
  rwa [← binding.created.hashed_eq sameRecord, ← other.created.hashed_eq sameRecord'] at sameText

end Records

/-- Whatever was repaired and rolled back before, every changed file is named in the journal.
Rolling back by all ids in it, in any order and as often as one likes, leaves the files as they
were at first but for those that the journal names, which are gone. -/
theorem rollback_undoes_run (inverts : Inverts loads)
    (digests : ∀ text, (Interpreter.sha256 text).length = 64) {files : Files} {actions : List Action}
    {system : System} (ran : System.run loads ⟨files, none⟩ actions = some system)
    {records : List TransactionRecord} (loaded : Journal.load loads system.journal = .ok records)
    (collisionFree : ∀ rec ∈ records, ∀ other ∈ records, rec.transactionId = other.transactionId →
      hashed rec = hashed other) :
    (∀ path, system.files path ≠ files path → ∃ rec ∈ records, Removes rec path) ∧
      ∀ wanteds : List Str,
        (∀ wanted, wanted ∈ wanteds ↔ ∃ rec ∈ records, rec.transactionId = .str wanted) →
        ∃ undone, system.run loads (wanteds.map .rollback) = some undone ∧
          undone.journal = system.journal ∧
          Without files (fun path => ∃ rec ∈ records, Removes rec path) undone.files ∧
          (undone.files = files ↔ ∀ path, (∃ rec ∈ records, Removes rec path) → files path = none) := by
  have same := (Ledger.run_system inverts ⟨files, []⟩ actions).symm.trans ran
  rw [Option.some.injEq] at same
  have outside : ∀ path, (¬ ∃ binding ∈ ((Ledger.mk files []).run actions).applied, binding.path = path) →
      ((Ledger.mk files []).run actions).files path = files path := by
    intro path none
    exact Ledger.run_frame ⟨files, []⟩ actions fun binding member samePath => none ⟨binding, member, samePath⟩
  generalize (Ledger.mk files []).run actions = ledger at same outside
  subst same
  obtain ⟨records', read, related⟩ := ledger.load_system inverts
  rw [read, Except.ok.injEq] at loaded
  subst loaded
  refine ⟨fun path changed => ?_, fun wanteds covers => ?_⟩
  · rw [exists_removes_iff related]
    by_contra none
    exact changed (outside path none)
  · have apart := collisionFree_of_records related collisionFree
    obtain ⟨after, undo, gone⟩ := Ledger.run_undo digests apart fun wanted =>
      (covers wanted).trans (exists_id_iff related wanted)
    have without : Without files (fun path => ∃ rec ∈ records', Removes rec path) after := by
      intro path
      have names := exists_removes_iff related path
      refine ⟨fun removes => (gone path).trans (if_pos (names.mp removes)), fun none => ?_⟩
      have absent := fun recorded => none (names.mpr recorded)
      exact (gone path).trans ((if_neg absent).trans (outside path absent))
    refine ⟨(Ledger.mk after ledger.applied).system, ?_, rfl, without, without.eq_iff⟩
    rw [Ledger.run_system inverts, undo]

omit [Interpreter] in
theorem rollback_undoes_run_golden :
    let _ : Interpreter := asciiInterpreter
    ∃ system undone, System.run readLoads ⟨fun _ => none, none⟩ goldenActions = some system ∧
      system.run readLoads [.rollback goldenBinding.id] = some undone ∧ undone.files = fun _ => none := by
  intro _
  have ran := Ledger.run_system readLoads_laws.inverts ⟨fun _ => none, []⟩ goldenActions
  have applied : ((Ledger.mk (fun _ => none) []).run goldenActions).applied = [goldenBinding, goldenBinding] := by
    rw [run_goldenActions]
  obtain ⟨records, loaded, related⟩ :=
    Ledger.load_system readLoads_laws.inverts ((Ledger.mk (fun _ => none) []).run goldenActions)
  rw [applied] at related
  have same : ∀ rec ∈ records, RecordSame goldenBinding.transaction rec := by
    intro rec member
    obtain ⟨binding, inBoth, sameRecord⟩ := exists_of_mem_right related member
    have isGolden : binding = goldenBinding := by simpa using inBoth
    rwa [isGolden] at sameRecord
  have collisionFree : ∀ rec ∈ records, ∀ other ∈ records, rec.transactionId = other.transactionId →
      hashed rec = hashed other := by
    intro rec member other member' _
    rw [← goldenBinding.created.hashed_eq (same rec member), goldenBinding.created.hashed_eq (same other member')]
  have covers : ∀ wanted, wanted ∈ [goldenBinding.id] ↔ ∃ rec ∈ records, rec.transactionId = .str wanted := by
    intro wanted
    rw [List.mem_singleton]
    constructor
    · intro isId
      obtain ⟨rec, member, sameRecord⟩ := exists_of_mem_left related List.mem_cons_self
      exact ⟨rec, member, by rw [isId]; exact goldenBinding.created.readId sameRecord⟩
    · intro ⟨rec, member, isId⟩
      rw [goldenBinding.created.readId (same rec member)] at isId
      exact (Json.str.inj isId).symm
  obtain ⟨undone, undo, _, _, absent⟩ :=
    (rollback_undoes_run readLoads_laws.inverts Sha256.length_hexdigest ran loaded collisionFree).2 _ covers
  exact ⟨_, undone, ran, undo, absent.mpr fun _ _ => rfl⟩

end Undo

end DongleRescue.Cli
