import DongleRescue.Cli.Arguments
import DongleRescue.Cli.History
import DongleRescue.Cli.Main
import DongleRescue.Linux.LogAccess
import DongleRescue.Verification.Checker

namespace DongleRescue.Cli

open DongleRescue.Data DongleRescue.Identification DongleRescue.Diagnostics DongleRescue.Repair

/-! The commands over a host, and the dispatch to them. -/

def exitUnknown : Nat := 2

def exitRefused : Nat := 3

/-- What the interpreter supplies beside the machine: the characters `str.isdigit` accepts. -/
structure Runtime extends Machine where
  isDigit : Char → Bool

def usage : Str :=
  "dongle-rescue <command> [options]\n" ++
    "commands: identify diagnose repair verify rollback history report doctor\n" ++
    "flags: --json --verbose --debug --non-interactive --no-network\n" ++
    "       --kernel-release R --device VID:PID --chip NAME --journal P\n" ++
    "       --dry-run --execute\n"

def textLines (lines : List Str) : Str := join "\n" lines ++ ['\n']

/-- `text or "-"`. -/
def orDash (text : Str) : Str := if text = [] then "-" else text

def labelled (label : Str) (texts : List Str) : List Str := texts.map (label ++ ·)

def evidenceText (ev : Evidence) : Str := ev.source ++ ": " ++ ev.detail

section Texts

variable [Interpreter]

def dryRunPlan (plan : Plan) : Json :=
  .dict [("feasible", .bool plan.feasible), ("what", .str plan.what),
    ("files_affected", .list ((sortTexts plan.filesAffected).map Json.str)),
    ("commands", .list (plan.commands.map Json.str)),
    ("transaction_id", (plan.transaction.map (·.transactionId)).getD .null)]

def diagnosisJson (diagnosis : Diagnosis) (plan : Plan) : Py Str := do
  let text ← Json.dumpsIndented (.dict (diagnosis.items ++ [(("dry_run_plan" : Str), dryRunPlan plan)]))
  return text ++ ['\n']

def planLines (plan : Plan) : List Str :=
  if plan.feasible then
    (["  WHAT:      " ++ plan.what, "  FILES:     " ++ join ", " plan.filesAffected] : List Str) ++
      labelled "  COMMAND:   " plan.commands ++
      (["  ROLLBACK:  " ++ plan.rollback, "  (display only — nothing was executed)"] : List Str)
  else ["  " ++ plan.what ++ ": " ++ plan.why, "  official origin: " ++ formatOption plan.officialOrigin]

def diagnosisText (diagnosis : Diagnosis) (plan : Plan) : Str :=
  let modules := fromkeys (diagnosis.driverCandidates.map (·.module))
  textLines ((["Dongle Driver Rescue", "====================", "",
      "USB:          " ++ diagnosis.device.vidPid ++ "  rev " ++ diagnosis.device.bcdDevice,
      "Product:      " ++ (pyOr diagnosis.device.product (some "?")).getD [],
      "Chipset:      " ++ diagnosis.identification.chipset ++ "  (" ++
        diagnosis.identification.confidence.value ++ ")",
      "Candidates:   " ++ orDash (join ", " modules),
      "Diagnosis:    STATE " ++ diagnosis.state.value ++ "  [" ++ diagnosis.confidence.value ++ "]",
      "Action:       " ++ diagnosis.recommendedAction.kind, "", "Evidence:"] : List Str) ++
    labelled "  - " ((diagnosis.evidence.take 6).map evidenceText) ++
    (["", "Dry-run repair plan:"] : List Str) ++ planLines plan ++
    if diagnosis.state = .aWorking then [("NO_ACTION_REQUIRED" : Str)] else [])

/-- An enumeration member in a format string is its qualified name. -/
def formatConfidence (confidence : Confidence) : Str := "Confidence." ++ confidence.value

/-- The lines of a plan, with its confidence as it is shown. -/
def repairLines (plan : Plan) (confidence : Str) : List Str :=
  let evidence : List Str := (plan.evidence.take 3).map evidenceText
  let tid := (plan.transaction.map (·.transactionId)).getD .null
  (["Repair plan (DRY RUN — nothing executed)", "", "  WHAT:           " ++ plan.what,
      "  WHY:            " ++ plan.why, "  SOURCE:         " ++ plan.source,
      "  EVIDENCE:       " ++ join "; " (if evidence = [] then ["-"] else evidence),
      "  CONFIDENCE:     " ++ confidence,
      "  FILES AFFECTED: " ++ orDash (join ", " plan.filesAffected)] : List Str) ++
    labelled "  COMMANDS:       " plan.commands ++
    (["  ROLLBACK:       " ++ plan.rollback] : List Str) ++
    (if tid.truthy then ["  TRANSACTION:    " ++ tid.formatted] else []) ++
    if plan.feasible then [] else [("  OFFICIAL ORIGIN: " : Str) ++ formatOption plan.officialOrigin]

def refusedLine : Str :=
  "REFUSED: execution is not available in V1 (SPEC §37). Apply the printed commands manually; " ++
    "the transaction id above keys the rollback."

def dryRunLine : Str := "(not executed — this was a dry run)"

/-- Nothing is executed: a request to do so is refused after the plan is printed. -/
def answerRepair (opts : List (Str × Option Str)) (out : List Str) : Nat × Str :=
  if has opts "--execute" then (exitRefused, textLines (out ++ [[], refusedLine]))
  else (exitOk, textLines (out ++ [[], dryRunLine]))

end Texts

section Commands

variable [Interpreter]

def pickDevice (host : Option Host) (vidPid : Option Str) : Py (Option UsbDevice) :=
  match host with
  | none => .ok none
  | some host => do
      let devs ← Usb.enumerateUsbDevices host Usb.usbDevicesRoot
      let want := lower (vidPid.getD [])
      return (if truthy vidPid then devs.filter fun device => device.vidPid = want else devs).head?

def noDevice : Nat × Str :=
  (exitUnknown, "UNKNOWN — no diagnosable USB device found.\nContinue manually with " ++ [Char.ofNat 96] ++
    "dongle-rescue identify --chip <name>" ++ [Char.ofNat 96] ++ " (SPEC §11).\n")

def cmdDiagnose (machine : Machine) (opts : List (Str × Option Str)) (host : Option Host) (kb : Kb) :
    Py (Nat × Str) := do
  let release := optValue opts "--kernel-release"
  match host, ← pickDevice host (optValue opts "--device") with
  | some host, some device => do
      let (diagnosis, plan) ← diagnoseOne machine device host kb release none
      let shown := if has opts "--json" then diagnosisJson diagnosis plan else .ok (diagnosisText diagnosis plan)
      return (exitOk, ← shown)
  | _, _ => return noDevice

def cmdIdentify (opts : List (Str × Option Str)) (kb : Kb) : Nat × Str :=
  let chip := optValue opts "--chip"
  if !truthy chip then (exitOk, "identify: pass --chip NAME to continue manually (SPEC §11)\n")
  else
    let known := kb.chipsets.any fun entry => entry.chipset = chip
    (exitOk, "Manual chip identification accepted: " ++ chip.getD [] ++ "\nKB coverage: " ++
      (if known then "yes" else "no — treated as UNKNOWN") ++
      "\nAttach evidence (photos, descriptor dump, HCI info) to the case file.\n")

/-- `next(e for e in chipsets if e["chipset"] == chip)`; an entry without a name is an error. -/
def namedEntry (chip : Str) : List KbEntry → Py (Option KbEntry)
  | [] => .ok none
  | entry :: entries => do
      let chipset ← entry.name
      if chipset = chip then return some entry else namedEntry chip entries

/-- The plan of an explicit chip, which is the plan of the device unless the chip refuses. -/
def chipLines (device : UsbDevice) (kb : Kb) (chip : Str) (entry : KbEntry) : Py (List Str) := do
  let plan ← planStateB device kb none none
  if plan.feasible && !entry.feasible then
    return repairLines { emptyPlan with
      why := chip ++ " driver rejects dynamic IDs (no_dynamic_id); binding by new_id is not feasible."
      source := "chipsets.json[" ++ chip ++ "]" } (entry.confidence.getD "UNKNOWN")
  else return repairLines plan (formatConfidence plan.confidence)

def cmdRepair (machine : Machine) (opts : List (Str × Option Str)) (host : Option Host) (kb : Kb) :
    Py (Nat × Str) := do
  let release := optValue opts "--kernel-release"
  let devSpec := optValue opts "--device"
  let chip := optValue opts "--chip"
  if truthy chip then do
    match ← namedEntry (chip.getD []) kb.chipsets with
    | none => return (exitNotFound, "chip " ++ chip.getD [] ++ " not covered by the knowledge base\n")
    | some entry => do
        match ← pickDevice host devSpec with
        | none => return (exitUnknown, "no USB device present for the requested repair\n")
        | some device => do
            let out ← chipLines device kb (chip.getD []) entry
            return answerRepair opts out
  else do
    match host, ← pickDevice host devSpec with
    | some host, some device => do
        let (_, plan) ← diagnoseOne machine device host kb release none
        return answerRepair opts (repairLines plan (formatConfidence plan.confidence))
    | _, _ => return (exitUnknown, "no diagnosable USB device found\n")

def checkLine (check : Verification.CheckResult) : Str :=
  let state : Str := match check.passed with
    | some true => "PASS"
    | some false => "FAIL"
    | none => "UNKNOWN"
  "  " ++ check.name.rightpad 22 ' ' ++ ' ' :: state.rightpad 7 ' ' ++ ' ' :: check.detail

def resultLine : Verification.Verdict → Str
  | .hardwareFunctional => "RESULT: HARDWARE FUNCTIONAL"
  | .unknown => "RESULT: UNKNOWN — host reads failed; inspect manually"
  | .notFunctional => "RESULT: NOT FUNCTIONAL — see failed checks above"

def verificationText (report : Verification.VerificationReport) : Str :=
  textLines ((["Verification (wifi):", "  verdict: " ++ report.verdict.value] : List Str) ++
    report.checks.map checkLine ++ [resultLine report.verdict])

def cmdVerify (opts : List (Str × Option Str)) (host : Option Host) : Py (Nat × Str) :=
  match host with
  | none => .ok (exitOk, "verify: no host available\n")
  | some host => do
      match ← pickDevice (some host) (optValue opts "--device") with
      | none => return (exitUnknown, "verify: no device present\n")
      | some device => do
          let report ← Verification.verifyDevice host "wifi" (firstInterface device) [] none
          return (exitOk, verificationText report)

def aliasReadable (host : Option Host) (release : Str) : Bool :=
  match host with
  | none => false
  | some host =>
      match Linux.readAliasLines host release with
      | .ok lines => !lines.isEmpty
      | .error _ => false

def pendingText : Option Bool → Str
  | some true => "yes"
  | some false => "no"
  | none => "unknown"

def hostLines (runtime : Runtime) (host : Host) : List Str :=
  let (hasJournalctl, plan) := Linux.planKernelLogAccess host runtime.release (some runtime.release)
  let (pending, reason) := Linux.rebootPending runtime.isDigit host runtime.release (some runtime.release)
  ["journalctl available: " ++ (if hasJournalctl then "yes" else "NO"), "kernel log plan: " ++ plan,
    "reboot pending: " ++ pendingText pending ++ " (" ++ reason ++ ")"]

def cmdDoctor (runtime : Runtime) (host : Option Host) (kb : Kb) : Nat × Str :=
  let managers := Firmware.detectPackageManagers runtime.which
  (exitOk, textLines ((["kernel release: " ++ runtime.release,
      "modules.alias readable: " ++ (if aliasReadable host runtime.release then "yes" else "NO"),
      "package manager detected: " ++ (if managers = [] then ("none" : Str) else join ", " managers),
      "knowledge base entries: " ++ decimal kb.chipsets.length,
      "network policy: offline by default (--no-network respected)"] : List Str) ++
    (host.map (hostLines runtime)).getD []))

/-- The journals that are on disk, by their path. -/
abbrev Journals := Str → Journal.File

def run (runtime : Runtime) (loads : Loads) (journals : Journals) (host : Option Host) (kb : Option Kb)
    (journalPath : Option Str) (argv : List Str) : Py (Nat × Str) :=
  let kb := kb.getD runtime.chipsetKb
  let parsed := parse argv
  let opts := parsed.opts
  match parsed.positional with
  | [] => .ok (exitOk, usage)
  | cmd :: rest =>
      let jp := pyOr (optValue opts "--journal") journalPath
      if cmd = "diagnose" then cmdDiagnose runtime.toMachine opts host kb
      else if cmd = "identify" then .ok (cmdIdentify opts kb)
      else if cmd = "repair" then cmdRepair runtime.toMachine opts host kb
      else if cmd = "history" then cmdHistory loads (journals (jp.getD [])) jp
      else if cmd = "rollback" then rollbackFile loads (journals (jp.getD [])) rest jp
      else if cmd = "verify" then cmdVerify opts host
      else if cmd = "report" then cmdDiagnose runtime.toMachine opts host kb
      else if cmd = "doctor" then .ok (cmdDoctor runtime host kb)
      else .ok (exitOk, "unknown command: " ++ cmd ++ '\n' :: usage)

end Commands

end DongleRescue.Cli
