import DongleRescue.Cli.Lifecycle

namespace DongleRescue.Cli

open DongleRescue.Data DongleRescue.Posix DongleRescue.Repair

/-! Repairs of several devices, and their rollbacks by full id, in any order that keeps the
order for each device. -/

variable [Interpreter]

inductive Task where
  | repair (device : UsbDevice) (kb : Kb) (boundDriver loadedModule : Option Str)
  | undo (binding : Binding)

namespace Task

def action : Task → Action
  | .repair device kb boundDriver loadedModule => .repair device kb boundDriver loadedModule
  | .undo binding => .rollback binding.id

/-- The one file that the task can touch. -/
def path : Task → Str
  | .repair device _ _ _ => confPath device.vid device.pid
  | .undo binding => binding.path

/-- The repair that the task makes or undoes. -/
def binding : Task → Option Binding
  | .repair device kb boundDriver loadedModule => plannedBinding device kb boundDriver loadedModule
  | .undo binding => some binding

end Task

theorem plannedBinding_path {device : UsbDevice} {kb : Kb} {boundDriver loadedModule : Option Str}
    {binding : Binding} (planned : plannedBinding device kb boundDriver loadedModule = some binding) :
    binding.path = confPath device.vid device.pid := by
  cases plan : planStateB device kb boundDriver loadedModule with
  | error failure => simp only [plannedBinding, plan, reduceCtorEq] at planned
  | ok plan' =>
      cases feasible : plan'.feasible with
      | false => simp only [plannedBinding, plan, feasible, Bool.false_eq_true, if_false, reduceCtorEq] at planned
      | true =>
          obtain ⟨binding', same, path, _⟩ := plannedBinding_of_feasible plan feasible
          rw [same, Option.some.injEq] at planned
          rwa [planned] at path

/-- A file, and the repairs that were made in it. -/
abbrev Cell := Option Str × List Binding

def Ledger.cell (ledger : Ledger) (path : Str) : Cell :=
  (ledger.files path, ledger.applied.filter fun binding => binding.path = path)

def Task.change : Task → Cell → Cell
  | .repair device kb boundDriver loadedModule, cell =>
      match plannedBinding device kb boundDriver loadedModule with
      | some binding => (some (cell.1.getD [] ++ binding.text), cell.2 ++ [binding])
      | none => cell
  | .undo binding, cell => if ∃ made ∈ cell.2, made.id = binding.id then (none, cell.2) else cell

def taskCells : Cellwise Task Str Cell where
  key := Task.path
  change := Task.change

section Cells

variable {ledger : Ledger} {known : Binding → Prop}
  (digests : ∀ text, (Interpreter.sha256 text).length = 64)
  (apart : ∀ binding other, known binding → known other → binding.id = other.id → binding.path = other.path)

theorem cell_repair {device : UsbDevice} {kb : Kb} {boundDriver loadedModule : Option Str} :
    (ledger.step (.repair device kb boundDriver loadedModule)).cell =
      taskCells.step ledger.cell (.repair device kb boundDriver loadedModule) := by
  funext path
  rw [Cellwise.step_apply]
  change (ledger.step (.repair device kb boundDriver loadedModule)).cell path =
    if confPath device.vid device.pid = path then
      Task.change (.repair device kb boundDriver loadedModule) (ledger.cell path) else ledger.cell path
  rw [Ledger.step, Task.change]
  cases planned : plannedBinding device kb boundDriver loadedModule with
  | none => simp
  | some binding =>
      rw [← plannedBinding_path planned]
      simp only [Ledger.cell, List.filter_append]
      by_cases here : binding.path = path
      · subst here
        simp [Files.append_self]
      · rw [if_neg here, Files.append, Files.write, Function.update_of_ne (Ne.symm here)]
        simp [here]

include digests apart in
theorem cell_undo {binding : Binding} (recorded : ∀ made ∈ ledger.applied, known made)
    (isKnown : known binding) :
    (ledger.step (.rollback binding.id)).cell = taskCells.step ledger.cell (.undo binding) := by
  funext path
  rw [Cellwise.step_apply]
  change (ledger.step (.rollback binding.id)).cell path =
    if binding.path = path then Task.change (.undo binding) (ledger.cell path) else ledger.cell path
  rw [Ledger.step, Task.change]
  cases found : ledger.named binding.id with
  | none =>
      have absent : ¬ ∃ made ∈ (ledger.cell path).2, made.id = binding.id := by
        rintro ⟨made, member, sameId⟩
        have starts := (Ledger.startsWith_id_iff digests made binding).mpr sameId
        exact List.find?_eq_none.mp found made (List.mem_of_mem_filter member) starts
      rw [if_neg absent, ite_self]
  | some made =>
      have member : made ∈ ledger.applied := List.mem_of_find?_eq_some found
      have starts : startsWith made.id binding.id = true :=
        List.find?_some (p := fun made => startsWith (Binding.id made) binding.id) found
      have sameId := (Ledger.startsWith_id_iff digests made binding).mp starts
      have samePath := apart made binding (recorded made member) isKnown sameId
      by_cases here : binding.path = path
      · have present : ∃ other ∈ (ledger.cell path).2, other.id = binding.id :=
          ⟨made, List.mem_filter.mpr ⟨member, by simp [samePath, here]⟩, sameId⟩
        rw [if_pos here, if_pos present]
        simp only [Ledger.cell, Files.remove, samePath, here, Function.update_self]
      · rw [if_neg here]
        simp only [Ledger.cell, Files.remove, samePath, Function.update_of_ne (Ne.symm here)]

include digests apart in
/-- On every file the ledger does what the tasks on that file do. -/
theorem cell_run {tasks : List Task} (all : ∀ task ∈ tasks, ∀ binding, task.binding = some binding → known binding)
    (files : Files) :
    ((Ledger.mk files []).run (tasks.map Task.action)).cell =
      taskCells.run (Ledger.mk files []).cell tasks := by
  have step : ∀ {ledger : Ledger} {task : Task}, (∀ made ∈ ledger.applied, known made) →
      (∀ binding, task.binding = some binding → known binding) →
      (∀ made ∈ (ledger.step task.action).applied, known made) ∧
        (ledger.step task.action).cell = taskCells.step ledger.cell task := by
    intro ledger task recorded isKnown
    cases task with
    | repair device kb boundDriver loadedModule =>
        refine ⟨?_, cell_repair⟩
        rw [Task.action, Ledger.step]
        cases planned : plannedBinding device kb boundDriver loadedModule with
        | none => exact recorded
        | some binding =>
            rw [List.forall_mem_append]
            exact ⟨recorded, by simpa using isKnown binding planned⟩
    | undo binding =>
        refine ⟨?_, cell_undo digests apart recorded (isKnown binding rfl)⟩
        rw [Task.action, Ledger.step]
        split
        · exact recorded
        · exact recorded
  rw [Ledger.run, List.foldl_map]
  have empty : ∀ made ∈ (Ledger.mk files []).applied, known made := List.forall_mem_nil _
  exact (Cellwise.view_run (fun ledger task => ledger.step (Task.action task)) Ledger.cell
    (fun task => ∀ binding, Task.binding task = some binding → known binding)
    (fun ledger => ∀ made ∈ ledger.applied, known made) step empty all).2

end Cells

/-- Files and journal do not depend on how the tasks on different files are interleaved, when no two
of their bindings share a digest. -/
theorem run_order_free {loads : Loads} (inverts : Inverts loads)
    (digests : ∀ text, (Interpreter.sha256 text).length = 64) {first second : List Task}
    (same : ∀ path, first.filter (fun task => task.path = path) = second.filter fun task => task.path = path)
    (collisionFree : ∀ task ∈ first, ∀ other ∈ first, ∀ binding made, task.binding = some binding →
      other.binding = some made → binding.id = made.id →
        hashed binding.transaction = hashed made.transaction) (files : Files) :
    ∃ one other, ∃ recorded recorded' : List TransactionRecord, System.run loads ⟨files, none⟩ (first.map Task.action) = some one ∧
      System.run loads ⟨files, none⟩ (second.map Task.action) = some other ∧ one.files = other.files ∧
      one.journal = recorded.foldl Journal.append none ∧
      other.journal = recorded'.foldl Journal.append none ∧ recorded.Perm recorded' := by
  have members : first.Perm second := perm_of_filter_eq same
  have apart : ∀ binding made, (∃ task ∈ first, task.binding = some binding) →
      (∃ task ∈ first, task.binding = some made) → binding.id = made.id → binding.path = made.path := by
    intro binding made ⟨task, member, here⟩ ⟨other, member', there⟩ sameId
    exact Binding.path_eq_of_hashed (collisionFree task member other member' binding made here there sameId)
  have known : ∀ task ∈ first, ∀ binding, task.binding = some binding →
      ∃ task ∈ first, task.binding = some binding := fun task member binding here => ⟨task, member, here⟩
  have known' : ∀ task ∈ second, ∀ binding, task.binding = some binding →
      ∃ task ∈ first, task.binding = some binding :=
    fun task member => known task (members.mem_iff.mpr member)
  have sameCells : ((Ledger.mk files []).run (first.map Task.action)).cell =
      ((Ledger.mk files []).run (second.map Task.action)).cell := by
    rw [cell_run digests apart known, cell_run digests apart known']
    exact Cellwise.run_congr same _
  have sameFiles : ((Ledger.mk files []).run (first.map Task.action)).files =
      ((Ledger.mk files []).run (second.map Task.action)).files := by
    funext path
    exact congrArg Prod.fst (congrFun sameCells path)
  have sameApplied : ((Ledger.mk files []).run (first.map Task.action)).applied.Perm
      ((Ledger.mk files []).run (second.map Task.action)).applied :=
    perm_of_filter_eq fun path => congrArg Prod.snd (congrFun sameCells path)
  exact ⟨_, _, _, _, Ledger.run_system inverts ⟨files, []⟩ _, Ledger.run_system inverts ⟨files, []⟩ _,
    sameFiles, rfl, rfl, sameApplied.map _⟩

def secondDevice : UsbDevice :=
  { goldenDevice with
    sysfsPath := "/sys/bus/usb/devices/1-3"
    pid := "c811"
    pidHex := by decide }

def twoAdaptersKb : Kb := ⟨[goldenEntry, { goldenEntry with usbIds := ["0bda:c811"] }]⟩

def secondBinding : Binding where
  vid := "0bda"
  pid := "c811"
  module := "rtw_8821cu"
  vidHex := goldenBinding.vidHex
  pidHex := by decide
  valid := goldenBinding.valid

theorem plannedBinding_second : plannedBinding secondDevice twoAdaptersKb none none = some secondBinding := by
  have found : findEntry twoAdaptersKb secondDevice.vid secondDevice.pid =
      some { goldenEntry with usbIds := ["0bda:c811"] } := rfl
  have chosen : chosenModule { goldenEntry with usbIds := ["0bda:c811"] } none none = some "rtw_8821cu" := rfl
  have planned := planStateB_eq_bind found rfl chosen (by decide) rfl rfl
  rw [plannedBinding, planned]
  rfl

/-- The second adapter is repaired before, or after, the first one's repair is undone. -/
def goldenTasks : List Task :=
  [.repair goldenDevice goldenKb none none, .repair secondDevice twoAdaptersKb none none, .undo goldenBinding]

def reorderedTasks : List Task :=
  [.repair goldenDevice goldenKb none none, .undo goldenBinding, .repair secondDevice twoAdaptersKb none none]

omit [Interpreter] in
private theorem filter_reordered (path : Str) : goldenTasks.filter (fun task => task.path = path) =
    reorderedTasks.filter fun task => task.path = path := by
  have apart : confPath secondDevice.vid secondDevice.pid ≠ goldenBinding.path := by decide
  by_cases first : goldenBinding.path = path
  · subst first
    simp [goldenTasks, reorderedTasks, List.filter_cons, Task.path, apart]
  · simp [goldenTasks, reorderedTasks, List.filter_cons, Task.path, first]

private theorem binding_goldenTasks {task : Task} (member : task ∈ goldenTasks) {binding : Binding}
    (here : task.binding = some binding) : binding = goldenBinding ∨ binding = secondBinding := by
  simp only [goldenTasks, List.mem_cons, List.not_mem_nil, or_false] at member
  rcases member with same | same | same
  · rw [same, Task.binding, plannedBinding_golden, Option.some.injEq] at here
    exact .inl here.symm
  · rw [same, Task.binding, plannedBinding_second, Option.some.injEq] at here
    exact .inr here.symm
  · rw [same, Task.binding, Option.some.injEq] at here
    exact .inl here.symm

omit [Interpreter] in
private theorem secondId_ne_goldenId :
    @Binding.id asciiInterpreter secondBinding ≠ @Binding.id asciiInterpreter goldenBinding := by
  decide +kernel

omit [Interpreter] in
theorem run_order_free_golden :
    let _ : Interpreter := asciiInterpreter
    ∃ one other, System.run readLoads ⟨fun _ => none, none⟩ (goldenTasks.map Task.action) = some one ∧
      System.run readLoads ⟨fun _ => none, none⟩ (reorderedTasks.map Task.action) = some other ∧
      one.files = other.files := by
  intro _
  have collisionFree : ∀ task ∈ goldenTasks, ∀ other ∈ goldenTasks, ∀ binding made,
      task.binding = some binding → other.binding = some made → binding.id = made.id →
        hashed binding.transaction = hashed made.transaction := by
    intro task member other member' binding made here there sameId
    rcases binding_goldenTasks member here with isGolden | isSecond
    · rcases binding_goldenTasks member' there with isGolden' | isSecond'
      · rw [isGolden, isGolden']
      · rw [isGolden, isSecond'] at sameId
        exact absurd sameId.symm secondId_ne_goldenId
    · rcases binding_goldenTasks member' there with isGolden' | isSecond'
      · rw [isSecond, isGolden'] at sameId
        exact absurd sameId secondId_ne_goldenId
      · rw [isSecond, isSecond']
  obtain ⟨one, other, _, _, ran, ran', same, _⟩ := run_order_free readLoads_laws.inverts
    Sha256.length_hexdigest filter_reordered collisionFree fun _ => none
  exact ⟨one, other, ran, ran', same⟩

end DongleRescue.Cli
