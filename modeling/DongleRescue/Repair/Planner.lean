import DongleRescue.KnowledgeBase
import DongleRescue.Repair.Transaction

namespace DongleRescue.Repair

open DongleRescue.Data DongleRescue.Posix

/-! Dry-run repair planner for diagnosis state B.  Commands are display-only
text; feasibility follows the knowledge base. -/

structure Plan where
  what : Str
  why : Str
  source : Str
  evidence : List Evidence
  confidence : Confidence
  filesAffected : List Str
  commands : List Str
  rollback : Str
  feasible : Bool := true
  executed : Bool := false
  requiresRoot : Bool := true
  safeForAutomation : Bool := false
  transaction : Option TransactionRecord := none
  persistenceContent : Option Str := none
  officialOrigin : Option Str := none

def aliasLine (vid pid module : Str) : Str :=
  "alias usb:v" ++ upper vid ++ 'p' :: upper pid ++ "d*dc*dsc*dp*icFFiscFFip00in* " ++ module ++ ['\n']

def findEntry (kb : Kb) (vid pid : Str) : Option KbEntry :=
  kb.entryById (lower vid ++ ':' :: lower pid)

def confPath (vid pid : Str) : Str := "/etc/modprobe.d/ddr-" ++ vid ++ '-' :: pid ++ ".conf"

def newIdPath (module : Str) : Str := "/sys/bus/usb/drivers/" ++ module ++ "/new_id"

def newIdCommand (vid pid module : Str) : Str :=
  "echo '" ++ vid ++ ' ' :: pid ++ "' | sudo tee " ++ newIdPath module

/-- The format of the persistence command; its escapes are for the utility. -/
def persistFormat (vid pid : Str) : Str :=
  "# ddr state-B bind " ++ vid ++ ' ' :: pid ++ "\\n%s\\n"

def persistCommand (vid pid module : Str) : Str :=
  "printf '" ++ persistFormat vid pid ++ "' '" ++ strip (aliasLine vid pid module) ++
    "' | sudo tee -a " ++ confPath vid pid

def emptyPlan : Plan where
  what := "nothing to do"
  why := "no plan produced"
  source := "-"
  evidence := []
  confidence := .unknown
  filesAffected := []
  commands := []
  rollback := "-"
  feasible := false

def unknownPlan (vid pid : Str) : Plan where
  what := "identify chipset " ++ vid ++ ':' :: pid
  why := "chipset not present in the knowledge base; refusing to guess " ++
    "(SPEC §11: manual identification remains available)"
  source := "data/chipsets.json"
  evidence := [⟨"chipsets.json", vid ++ ':' :: pid ++ " has no claiming entry"⟩]
  confidence := .unknown
  filesAffected := []
  commands := []
  rollback := "-"
  feasible := false
  requiresRoot := false

def refusedPlan (vid pid chipset notes : Str) (confidence : Confidence) : Plan where
  what := "diagnose unbound ID " ++ vid ++ ':' :: pid ++ " (" ++ chipset ++ ")"
  why := "in-tree driver claims the chipset but rejects dynamic IDs (" ++ notes ++
    "); no legitimate local fix exists"
  source := "docs/research/realtek.md §1 (source-verified)"
  evidence := [⟨"chipsets.json", chipset ++ ": new_id_feasible=false"⟩]
  confidence
  filesAffected := []
  commands := []
  rollback := "-"
  feasible := false
  requiresRoot := false
  officialOrigin := some ("vendor reference driver channel (OEM/Windows Update/distro " ++
    "kernel request); the tool points, never forces")

section Planning

variable [Interpreter]

def beforeState (vid pid : Str) : Json :=
  .dict [("kind", .str "modprobe_d_file"), ("path", .str (confPath vid pid)),
    ("existed", .bool false), ("sha256", .null)]

def aliasChange (vid pid module : Str) : Json :=
  .dict [("op", .str "create_modprobe_alias"), ("content", .str (aliasLine vid pid module))]

def afterState (vid pid module : Str) : Json :=
  .dict [("kind", .str "modprobe_d_file"), ("path", .str (confPath vid pid)),
    ("existed", .bool true),
    ("content_sha256", .str (Interpreter.sha256 (aliasLine vid pid module)))]

def removeConf (vid pid : Str) : Json :=
  .dict [("op", .str "remove_file"), ("path", .str (confPath vid pid)),
    ("restore_if_existed", .dict [("sha256", .null)])]

def bindTransaction (vid pid module : Str) : TransactionRecord :=
  createTransaction (beforeState vid pid) (aliasChange vid pid module) (afterState vid pid module)
    (removeConf vid pid)

def bindPlan (vid pid module chipset : Str) (modules : Option (List Str))
    (confidence : Confidence) : Plan where
  what := "bind " ++ vid ++ ':' :: pid ++ " to " ++ module ++
    " via new_id and persist the modprobe.d alias"
  why := module ++ " claims chipset " ++ chipset ++ " and accepts dynamic IDs; " ++
    "the device ID is simply missing from its table (state B)"
  source := "modules.alias + data/chipsets.json"
  evidence := [⟨"chipsets.json",
    chipset ++ ": modules=" ++ formatTexts modules ++ ", new_id_feasible=true"⟩]
  confidence
  filesAffected := [confPath vid pid]
  commands := [newIdCommand vid pid module, persistCommand vid pid module]
  rollback := "remove " ++ confPath vid pid ++ " (guarded, idempotent) and reload the module; " ++
    "the new_id binding is volatile and dies with the reboot"
  transaction := some (bindTransaction vid pid module)
  persistenceContent := some (aliasLine vid pid module)

def chosenModule (entry : KbEntry) (boundDriver loadedModule : Option Str) : Option Str :=
  pyOr boundDriver (pyOr loadedModule (pyOr entry.preferredModule entry.newIdModules.head?))

def planStateB (device : UsbDevice) (kb : Kb) (boundDriver loadedModule : Option Str) : Py Plan :=
  let vid := device.vid
  let pid := device.pid
  match findEntry kb vid pid with
  | none => .ok (unknownPlan vid pid)
  | some entry =>
      if !entry.feasible then do
        let notes := (pyOr entry.notes (some ".no_dynamic_id = 1 blocks dynamic binding")).getD []
        let chipset ← entry.name
        let confidence ← entry.level "HIGH_CONFIDENCE"
        return refusedPlan vid pid chipset notes confidence
      else
        let module := chosenModule entry boundDriver loadedModule
        if !truthy module then
          .error (.valueError "feasible chipset without any candidate module")
        else do
          let module ← requireModuleName (module.getD [])
          let chipset ← entry.name
          let confidence ← entry.level "PROBABLE"
          return bindPlan vid pid module chipset entry.modules confidence

/-- The three plans, each with what the planner checked before it. -/
inductive Planned (device : UsbDevice) (kb : Kb) (boundDriver loadedModule : Option Str) :
    Plan → Prop where
  | unknown (missing : findEntry kb device.vid device.pid = none) :
      Planned device kb boundDriver loadedModule (unknownPlan device.vid device.pid)
  | refused {entry : KbEntry} {chipset notes : Str} {confidence : Confidence}
      (found : findEntry kb device.vid device.pid = some entry)
      (infeasible : entry.feasible = false) :
      Planned device kb boundDriver loadedModule
        (refusedPlan device.vid device.pid chipset notes confidence)
  | bind {entry : KbEntry} {module chipset : Str} {confidence : Confidence}
      (found : findEntry kb device.vid device.pid = some entry)
      (feasible : entry.feasible = true)
      (chosen : chosenModule entry boundDriver loadedModule = some module)
      (valid : isModuleName module = true) :
      Planned device kb boundDriver loadedModule
        (bindPlan device.vid device.pid module chipset entry.modules confidence)

variable {device : UsbDevice} {kb : Kb} {boundDriver loadedModule : Option Str} {plan : Plan}

theorem planStateB_planned (planned : planStateB device kb boundDriver loadedModule = .ok plan) :
    Planned device kb boundDriver loadedModule plan := by
  unfold planStateB at planned
  simp only at planned
  split at planned
  · rename_i missing
    have same := Except.ok.inj planned
    subst same
    exact .unknown missing
  · rename_i entry found
    split at planned
    · rename_i infeasible
      obtain ⟨chipset, _, planned⟩ := bind_ok planned
      obtain ⟨confidence, _, planned⟩ := bind_ok planned
      have same := Except.ok.inj planned
      subst same
      exact .refused found (by simpa using infeasible)
    · rename_i feasible
      split at planned
      · cases planned
      · rename_i available
        obtain ⟨module, accepted, planned⟩ := bind_ok planned
        obtain ⟨chipset, _, planned⟩ := bind_ok planned
        obtain ⟨confidence, _, planned⟩ := bind_ok planned
        have same := Except.ok.inj planned
        subst same
        obtain ⟨text, chosen, _⟩ := truthy_iff.mp (by simpa using available)
        rw [chosen] at accepted
        obtain ⟨same, valid⟩ := requireModuleName_ok accepted
        rw [Option.getD_some] at same valid
        subst same
        exact .bind found (by simpa using feasible) chosen valid

theorem planStateB_feasible (planned : planStateB device kb boundDriver loadedModule = .ok plan)
    (feasible : plan.feasible = true) :
    ∃ entry module chipset confidence, findEntry kb device.vid device.pid = some entry ∧
      entry.feasible = true ∧ chosenModule entry boundDriver loadedModule = some module ∧
      isModuleName module = true ∧
      plan = bindPlan device.vid device.pid module chipset entry.modules confidence := by
  cases planStateB_planned planned with
  | unknown missing => cases feasible
  | refused found infeasible => cases feasible
  | bind found entryFeasible chosen valid =>
      exact ⟨_, _, _, _, found, entryFeasible, chosen, valid, rfl⟩

theorem planStateB_eq_bind {entry : KbEntry} {module chipset : Str} {confidence : Confidence}
    (found : findEntry kb device.vid device.pid = some entry) (feasible : entry.feasible = true)
    (chosen : chosenModule entry boundDriver loadedModule = some module)
    (valid : isModuleName module = true) (named : entry.chipset = some chipset)
    (level : entry.level "PROBABLE" = .ok confidence) :
    planStateB device kb boundDriver loadedModule =
      .ok (bindPlan device.vid device.pid module chipset entry.modules confidence) := by
  have available : truthy (some module) = true :=
    truthy_iff.mpr ⟨module, rfl, isModuleName_ne_nil valid⟩
  have accepted : requireModuleName module = .ok module := by
    rw [requireModuleName, if_pos valid]
  unfold planStateB
  simp only [found, feasible, chosen, available, Bool.not_true, Bool.false_eq_true, if_false,
    Option.getD_some]
  rw [accepted, KbEntry.name_ok.mpr named, level]
  rfl

end Planning

/-- The entry of the golden device, which lists a module with and one without dynamic ids. -/
def goldenEntry : KbEntry where
  chipset := some "RTL8811CU"
  family := some "realtek-wifi"
  modules := some ["rtl8xxxu", "rtw_8821cu"]
  preferredModule := some "rtw_8821cu"
  newIdFeasible := some true
  newIdModules := ["rtw_8821cu"]
  confidence := some "HIGH_CONFIDENCE"
  usbIds := ["0bda:8811"]

def goldenKb : Kb := ⟨[goldenEntry]⟩

def goldenPlan [Interpreter] (module : Str) : Plan :=
  bindPlan "0bda" "8811" module "RTL8811CU" (some ["rtl8xxxu", "rtw_8821cu"]) .highConfidence

theorem planStateB_golden [Interpreter] {boundDriver loadedModule : Option Str} {module : Str}
    (chosen : chosenModule goldenEntry boundDriver loadedModule = some module)
    (valid : isModuleName module = true) :
    planStateB goldenDevice goldenKb boundDriver loadedModule = .ok (goldenPlan module) :=
  planStateB_eq_bind rfl rfl chosen valid rfl rfl

example : (@transactionIdFrom asciiInterpreter (beforeState "0bda" "8811")
      (aliasChange "0bda" "8811" "rtw_8821cu")
      (@afterState asciiInterpreter "0bda" "8811" "rtw_8821cu") (removeConf "0bda" "8811")) =
    "de61ff237197966ad3f764712a9d1c136df0e5f9dae0e860ca7c04ba15f4a100" := by
  decide +kernel

end DongleRescue.Repair
