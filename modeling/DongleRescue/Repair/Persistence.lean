import DongleRescue.Posix.Utilities
import DongleRescue.Repair.CommandLines

namespace DongleRescue.Repair

open DongleRescue.Data DongleRescue.Posix

/-! What the persistence command does to the configuration file, and what the
rollback steps of its transaction do afterwards. -/

section Effects

variable {vid pid module : Str}

def bindComment (vid pid : Str) : Str := "# ddr state-B bind " ++ vid ++ ' ' :: pid ++ ['\n']

theorem bindComment_append_ne (vid pid content : Str) :
    bindComment vid pid ++ content ≠ content := by
  intro same
  have empty : bindComment vid pid = [] := List.append_left_eq_self.mp same
  have last : (bindComment vid pid).getLast? = some '\n' := List.getLast?_concat
  rw [empty] at last
  cases last

private theorem isFormatPlain_of_isHex4 {text : Str} (hex : IsHex4 text) :
    ∀ c ∈ text, isFormatPlain c = true := by
  have all : ∀ c ∈ hexDigits, isFormatPlain c = true := by decide
  exact forall_of_isHex hex.2 all

theorem printf_persistFormat (vidHex : IsHex4 vid) (pidHex : IsHex4 pid) (value : Str) :
    printf (persistFormat vid pid) [value] = some (bindComment vid pid ++ (value ++ ['\n'])) := by
  have plain : ∀ c ∈ "# ddr state-B bind ".toList ++ vid ++ ' ' :: pid, isFormatPlain c = true := by
    refine List.forall_mem_append.mpr ⟨List.forall_mem_append.mpr ⟨by decide, ?_⟩,
      List.forall_mem_cons.mpr ⟨by decide, ?_⟩⟩
    · exact isFormatPlain_of_isHex4 vidHex
    · exact isFormatPlain_of_isHex4 pidHex
  have text : "# ddr state-B bind ".toList ++ vid ++ ' ' :: pid ++ ['\n'] = bindComment vid pid := rfl
  have pass : formatOnce (persistFormat vid pid) [value] =
      some (bindComment vid pid ++ (value ++ ['\n']), []) := by
    unfold persistFormat
    rw [formatOnce_plain plain]
    have escapes : formatOnce "\\n%s\\n".toList [value] = some ('\n' :: (value ++ ['\n']), []) := by
      simp [formatOnce]
    rw [escapes, ← text]
    simp
  exact printf_of_pass pass

theorem runLine_persistCommand (vidHex : IsHex4 vid) (pidHex : IsHex4 pid)
    (valid : isModuleName module = true) (files : Files) :
    runLine (persistCommand vid pid module) files =
      some (files.append (confPath vid pid) (bindComment vid pid ++ aliasLine vid pid module)) := by
  have commands : (persistLine vidHex pidHex valid).commands =
      ([["printf", persistFormat vid pid, aliasText vid pid module],
        ["sudo", "tee", "-a", confPath vid pid]] : List (List Str)) := rfl
  have named : ∀ command ∈ (persistLine vidHex pidHex valid).head ::
      (persistLine vidHex pidHex valid).rest, isCommandName command.head.word = true :=
    List.forall_mem_cons.mpr ⟨rfl, List.forall_mem_cons.mpr ⟨rfl, by simp⟩⟩
  have row : aliasText vid pid module ++ ['\n'] = aliasLine vid pid module := rfl
  rw [persistCommand_eq vidHex pidHex valid, runLine_render _ named, commands, runPipeline,
    execute_printf, printf_persistFormat vidHex pidHex, row]
  simp only [Option.map_some, Option.bind_eq_bind, Option.bind_some, runPipeline, execute_sudo,
    execute_tee_append]

/-- One rollback step; a file's former content is not part of a record, so only
steps that restore none can be executed. -/
def applyStep (files : Files) (step : RollbackStep) : Option Files :=
  match step.action with
  | .noop => some files
  | .removeFile path _ .null =>
      if step.ifPresent || (files path).isSome then some (files.remove path) else none
  | .removeFile _ _ _ => none
  | .removeNewId _ _ _ => some files

def applySteps (files : Files) (steps : List RollbackStep) : Option Files :=
  steps.foldlM applyStep files

private theorem clean_confName (vidHex : IsHex4 vid) (pidHex : IsHex4 pid) :
    CleanName ("ddr-" ++ vid ++ '-' :: pid ++ ".conf") := by
  have noSlash : ∀ {text : Str}, IsHex4 text → '/' ∉ text := by
    intro text hex member
    exact absurd (hex.2 '/' member) (by decide)
  have head : ("ddr-".toList ++ vid ++ '-' :: pid ++ ".conf").head? = some 'd' := by simp
  refine ⟨?_, ?_, ?_, ?_⟩
  · intro same
    rw [same] at head
    cases head
  · intro same
    rw [same] at head
    cases head
  · intro same
    rw [same] at head
    cases head
  · simp only [List.mem_append, List.mem_cons, not_or]
    exact ⟨⟨⟨by decide, noSlash vidHex⟩, by decide, noSlash pidHex⟩, by decide⟩

theorem normpath_confPath (vidHex : IsHex4 vid) (pidHex : IsHex4 pid) :
    normpath (confPath vid pid) = confPath vid pid := by
  have shape : confPath vid pid =
      render ["etc", "modprobe.d", "ddr-" ++ vid ++ '-' :: pid ++ ".conf"] := by
    unfold confPath
    simp [render, join, List.intercalate]
  have clean : ∀ name ∈ (["etc", "modprobe.d", "ddr-" ++ vid ++ '-' :: pid ++ ".conf"] : List Str),
      CleanName name :=
    List.forall_mem_cons.mpr ⟨by decide, List.forall_mem_cons.mpr ⟨by decide,
      List.forall_mem_cons.mpr ⟨clean_confName vidHex pidHex, by simp⟩⟩⟩
  rw [shape]
  exact normpath_render (by simp) clean

def removeConfStep (vid pid : Str) : RollbackStep where
  seq := 1
  action := .removeFile (confPath vid pid) "restore only if before-state says it existed" .null
  ifPresent := true

theorem applySteps_removeConf (files : Files) :
    applySteps files [removeConfStep vid pid] = some (files.remove (confPath vid pid)) := rfl

variable [Interpreter]

theorem planRollback_bindTransaction (vidHex : IsHex4 vid) (pidHex : IsHex4 pid) :
    planRollback (bindTransaction vid pid module) = .ok [removeConfStep vid pid] := by
  have absolute : startsWith (confPath vid pid) "/" = true := by
    unfold confPath
    rfl
  have op : pyGet "op" (removeConf vid pid) = .ok (.str "remove_file") := rfl
  have path : pyGet "path" (removeConf vid pid) = .ok (.str (confPath vid pid)) := rfl
  have planned : planRemoveFile (removeConf vid pid) = .ok [removeConfStep vid pid] := by
    rw [planRemoveFile]
    rw [path]
    exact if_pos ⟨absolute, normpath_confPath vidHex pidHex⟩
  have action : (bindTransaction vid pid module).rollbackAction = removeConf vid pid := rfl
  rw [planRollback_removeFile (by rw [action, op]), action, planned]

end Effects

section Plans

variable [Interpreter]

/-- Run where its file is absent, the persistence command leaves the content the
transaction records, at the path that every part of the plan names. -/
def PersistsRecorded (plan : Plan) (files : Files) : Prop :=
  ∃ path content command transaction after,
    plan.filesAffected = [path] ∧ plan.commands[1]? = some command ∧
    plan.transaction = some transaction ∧
    pyGet "path" transaction.afterState = .ok (.str path) ∧
    pyGet "path" transaction.rollbackAction = .ok (.str path) ∧
    pyGet "content" transaction.change = .ok (.str content) ∧
    pyGet "content_sha256" transaction.afterState = .ok (.str (Interpreter.sha256 content)) ∧
    runLine command files = some after ∧ after path = some content

/-- Command, then rollback, gives the files back; a second rollback keeps them. -/
def RestoredByRollback (plan : Plan) (files : Files) : Prop :=
  ∃ command transaction steps after,
    plan.commands[1]? = some command ∧ plan.transaction = some transaction ∧
    planRollback transaction = .ok steps ∧ runLine command files = some after ∧
    applySteps after steps = some files ∧ applySteps files steps = some files

variable {device : UsbDevice} {kb : Kb} {boundDriver loadedModule : Option Str} {plan : Plan}
  {vid pid module chipset : Str} {modules : Option (List Str)} {confidence : Confidence}

theorem not_persistsRecorded_bindPlan (vidHex : IsHex4 vid) (pidHex : IsHex4 pid)
    (valid : isModuleName module = true) {files : Files} (absent : files (confPath vid pid) = none) :
    ¬ PersistsRecorded (bindPlan vid pid module chipset modules confidence) files := by
  intro ⟨path, content, command, transaction, after, affected, second, recorded, _, _, changed,
    _, ran, found⟩
  have samePath : confPath vid pid = path := List.singleton_inj.mp affected
  have sameCommand : persistCommand vid pid module = command := Option.some.inj second
  have sameTransaction : bindTransaction vid pid module = transaction := Option.some.inj recorded
  subst path command transaction
  have sameContent : aliasLine vid pid module = content := Json.str.inj (Except.ok.inj changed)
  rw [runLine_persistCommand vidHex pidHex valid] at ran
  have sameFiles := Option.some.inj ran
  rw [← sameFiles, Files.append_self, absent, Option.getD_none, List.nil_append, ← sameContent] at found
  exact bindComment_append_ne _ _ _ (Option.some.inj found)

theorem restoredByRollback_bindPlan_iff (vidHex : IsHex4 vid) (pidHex : IsHex4 pid)
    (valid : isModuleName module = true) {files : Files} :
    RestoredByRollback (bindPlan vid pid module chipset modules confidence) files ↔
      files (confPath vid pid) = none := by
  constructor
  · intro ⟨command, transaction, steps, after, second, recorded, planned, ran, once, _⟩
    have sameCommand : persistCommand vid pid module = command := Option.some.inj second
    have sameTransaction : bindTransaction vid pid module = transaction := Option.some.inj recorded
    subst command transaction
    rw [planRollback_bindTransaction vidHex pidHex] at planned
    rw [runLine_persistCommand vidHex pidHex valid] at ran
    have sameSteps := Except.ok.inj planned
    have sameFiles := Option.some.inj ran
    subst steps after
    rw [applySteps_removeConf] at once
    exact Files.remove_append_eq_iff.mp (Option.some.inj once)
  · intro absent
    have undone : (files.append (confPath vid pid)
        (bindComment vid pid ++ aliasLine vid pid module)).remove (confPath vid pid) = files :=
      Files.remove_append_eq_iff.mpr absent
    refine ⟨_, _, _, _, rfl, rfl, planRollback_bindTransaction vidHex pidHex,
      runLine_persistCommand vidHex pidHex valid files, ?_, ?_⟩
    · rw [applySteps_removeConf, undone]
    · rw [applySteps_removeConf, ← undone, Files.remove_idem, undone]

/-- The persistence command never leaves the recorded content: a comment line
comes first, and the recorded digest is that of the alias row alone. -/
theorem persistence_not_recorded
    (planned : planStateB device kb boundDriver loadedModule = .ok plan)
    (feasible : plan.feasible = true) {files : Files}
    (absent : ∀ path ∈ plan.filesAffected, files path = none) :
    ¬ PersistsRecorded plan files ∧
      ∃ path content command after, plan.filesAffected = [path] ∧
        plan.persistenceContent = some content ∧ plan.commands[1]? = some command ∧
        runLine command files = some after ∧
        after path = some (bindComment device.vid device.pid ++ content) := by
  obtain ⟨entry, module, chipset, confidence, _, _, _, valid, same⟩ :=
    planStateB_feasible planned feasible
  subst plan
  have absent : files (confPath device.vid device.pid) = none := absent _ (List.mem_singleton_self _)
  refine ⟨not_persistsRecorded_bindPlan device.vidHex.1 device.pidHex.1 valid absent,
    _, _, _, _, rfl, rfl, rfl,
    runLine_persistCommand device.vidHex.1 device.pidHex.1 valid files, ?_⟩
  rw [Files.append_self, absent]
  rfl

omit [Interpreter] in
theorem persistence_not_recorded_golden :
    ¬ @PersistsRecorded asciiInterpreter (@goldenPlan asciiInterpreter "rtw_8821cu")
      (fun _ => none) := by
  let _ : Interpreter := asciiInterpreter
  have planned : planStateB goldenDevice goldenKb none none = .ok (goldenPlan "rtw_8821cu") :=
    planStateB_golden rfl (by decide)
  exact (persistence_not_recorded planned rfl (fun _ _ => rfl)).1

omit [Interpreter] in
theorem golden_comment_not_recorded :
    ∃ plan, @planStateB asciiInterpreter goldenDevice goldenKb none (some "rtw_8821cu") = .ok plan ∧
      plan.feasible = true ∧ ¬ @PersistsRecorded asciiInterpreter plan (fun _ => none) := by
  let _ : Interpreter := asciiInterpreter
  exact ⟨goldenPlan "rtw_8821cu", planStateB_golden rfl (by decide), rfl,
    not_persistsRecorded_bindPlan (by decide) (by decide) (by decide) rfl⟩

/-- Rollback undoes the command exactly when the file did not exist before. -/
theorem restoredByRollback_iff_absent
    (planned : planStateB device kb boundDriver loadedModule = .ok plan)
    (feasible : plan.feasible = true) (files : Files) :
    RestoredByRollback plan files ↔ ∀ path ∈ plan.filesAffected, files path = none := by
  obtain ⟨entry, module, chipset, confidence, _, _, _, valid, same⟩ :=
    planStateB_feasible planned feasible
  subst plan
  rw [restoredByRollback_bindPlan_iff device.vidHex.1 device.pidHex.1 valid]
  constructor
  · intro absent path member
    rw [List.mem_singleton.mp member]
    exact absent
  · intro absent
    exact absent _ (List.mem_singleton_self _)

omit [Interpreter] in
theorem restoredByRollback_iff_absent_golden :
    @RestoredByRollback asciiInterpreter (@goldenPlan asciiInterpreter "rtw_8821cu")
      (fun _ => none) := by
  let _ : Interpreter := asciiInterpreter
  have planned : planStateB goldenDevice goldenKb none none = .ok (goldenPlan "rtw_8821cu") :=
    planStateB_golden rfl (by decide)
  exact (restoredByRollback_iff_absent planned rfl (fun _ => none)).mpr fun _ _ => rfl

omit [Interpreter] in
/-- An administrator's file at the same path is lost. -/
theorem golden_rollback_removes_file :
    ∃ plan, @planStateB asciiInterpreter goldenDevice goldenKb none none = .ok plan ∧
      plan.feasible = true ∧
      ¬ @RestoredByRollback asciiInterpreter plan (fun path =>
        if path = "/etc/modprobe.d/ddr-0bda-8811.conf" then some "options rtw_8821cu debug=1\n"
        else none) := by
  let _ : Interpreter := asciiInterpreter
  refine ⟨goldenPlan "rtw_8821cu", planStateB_golden rfl (by decide), rfl, fun restored => ?_⟩
  have absent := (restoredByRollback_bindPlan_iff (by decide) (by decide) (by decide)).mp restored
  have same : confPath "0bda" "8811" = "/etc/modprobe.d/ddr-0bda-8811.conf" := by decide
  rw [if_pos same] at absent
  cases absent

end Plans

end DongleRescue.Repair
