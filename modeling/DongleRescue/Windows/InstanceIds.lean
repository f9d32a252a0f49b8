import DongleRescue.Windows.CommandLine
import DongleRescue.Windows.EnumPs

namespace DongleRescue.Windows

open DongleRescue.Data

/-! The enumeration command of one device, read back as the arguments that its program gets. -/

section Commands

variable {instanceId line : Str}

theorem noQuote_of_instanceIdOk (accepted : instanceIdOk instanceId = true) (oneLine : '\n' ∉ instanceId) :
    '"' ∉ instanceId := by
  cases spanned : instanceId.span isInstanceIdChar with
  | mk run rest =>
      obtain ⟨split, inside, _⟩ := span_eq_iff.mp spanned
      unfold instanceIdOk at accepted
      rw [spanned] at accepted
      simp only [Bool.and_eq_true, Bool.or_eq_true, decide_eq_true_eq] at accepted
      have whole : instanceId = run := by
        rcases accepted.2 with ends | broken
        · rw [split, ends, List.append_nil]
        · exact absurd (by simp [split, broken]) oneLine
      intro member
      have quote := inside '"' (whole ▸ member)
      exact absurd quote (by decide)

theorem buildPnputilEnumDevicesCmd_ok (built : buildPnputilEnumDevicesCmd (some instanceId) = .ok line) :
    '"' ∉ instanceId ∧ line = enumDevicesCmd ++ " /instanceid \"" ++ instanceId ++ "\"" := by
  rw [buildPnputilEnumDevicesCmd] at built
  split at built
  · cases built
  · rename_i checked
    split at built
    · cases built
    · cases built
      simp only [Bool.or_eq_true, not_or, Bool.not_eq_true', Bool.not_eq_false, List.contains_iff_mem] at checked
      exact ⟨noQuote_of_instanceIdOk checked.1.1 checked.1.2, rfl⟩

/-- Up to the instance id the line is words; what the quotes hold is read by itself. -/
theorem commandLineToArgv_quoted (text : Str) :
    commandLineToArgv (enumDevicesCmd ++ " /instanceid \"" ++ text ++ "\"") =
      (["pnputil", "/enum-devices", "/connected", "/deviceids", "/instanceid"] : List Str) ++
        argumentsFrom none ('"' :: (text ++ ['"'])) := by
  have words : enumDevicesCmd ++ " /instanceid \"" ++ text ++ "\"" =
      "pnputil".toList ++ ' ' :: ("/enum-devices".toList ++ ' ' :: ("/connected".toList ++ ' ' ::
        ("/deviceids".toList ++ ' ' :: ("/instanceid".toList ++ ' ' :: '"' :: (text ++ ['"']))))) := rfl
  rw [words, commandLineToArgv_word (by decide) (by decide) rfl]
  iterate 4 rw [argumentsFrom_word (by decide) (by decide) (by decide) rfl]
  rfl

theorem commandLineToArgv_cmd_iff (built : buildPnputilEnumDevicesCmd (some instanceId) = .ok line) :
    commandLineToArgv line = (["pnputil", "/enum-devices", "/connected", "/deviceids", "/instanceid",
      instanceId] : List Str) ↔ instanceId.getLast? ≠ some '\\' := by
  obtain ⟨noQuote, rfl⟩ := buildPnputilEnumDevicesCmd_ok built
  have split : (["pnputil", "/enum-devices", "/connected", "/deviceids", "/instanceid", instanceId] : List Str) =
      (["pnputil", "/enum-devices", "/connected", "/deviceids", "/instanceid"] : List Str) ++ [instanceId] := rfl
  rw [commandLineToArgv_quoted, split, List.append_cancel_left_eq]
  exact argumentsFrom_quoted_eq_iff noQuote

/-- The device of an adapter, as `pnputil` lists it. -/
theorem commandLineToArgv_cmd_device :
    commandLineToArgv (enumDevicesCmd ++ " /instanceid \"" ++ "USB\\VID_0BDA&PID_8811\\5&23c4b87&0&2" ++ "\"") =
      (["pnputil", "/enum-devices", "/connected", "/deviceids", "/instanceid",
        "USB\\VID_0BDA&PID_8811\\5&23c4b87&0&2"] : List Str) :=
  (commandLineToArgv_cmd_iff rfl).mpr (by decide)

/-- The last backslash turns the closing quote into a character of the id. -/
theorem commandLineToArgv_cmd_backslash :
    ∃ line, buildPnputilEnumDevicesCmd (some ("USB\\VID_0BDA&PID_8811\\5\\" : Str)) = .ok line ∧
      commandLineToArgv line = (["pnputil", "/enum-devices", "/connected", "/deviceids", "/instanceid",
        "USB\\VID_0BDA&PID_8811\\5\""] : List Str) ∧
      commandLineToArgv line ≠ (["pnputil", "/enum-devices", "/connected", "/deviceids", "/instanceid",
        "USB\\VID_0BDA&PID_8811\\5\\"] : List Str) :=
  ⟨_, rfl, by decide +kernel, by decide +kernel⟩

end Commands

end DongleRescue.Windows
