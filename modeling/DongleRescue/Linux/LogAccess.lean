import DongleRescue.Host

namespace DongleRescue.Linux

open DongleRescue.Data

/-! How to obtain the kernel log, and whether an installed kernel waits for a reboot.
Neither runs anything, and neither lets a failure of the host through. -/

def journalctlArgv : List Str := ["/usr/bin/journalctl", "-k", "--no-pager", "-o", "short"]

def dmesgArgv : List Str := ["/usr/bin/dmesg"]

def dmesgDenied : Str := "Operation not permitted"

/-- `host.exists`, with a failure taken as absence. -/
def seen (host : Host) (path : Str) : Bool :=
  match host.exists path with
  | .ok present => present
  | .error _ => false

def releaseOr (release : Option Str) (platformRelease : Str) : Str :=
  (pyOr release (some platformRelease)).getD []

def planKernelLogAccess (host : Host) (platformRelease : Str) (release : Option Str) : Bool × Str :=
  let target := releaseOr release platformRelease
  let hasJournalctl := seen host (journalctlArgv.headD [])
  if hasJournalctl then
    (true, "kernel " ++ target ++ ": run " ++ join " " journalctlArgv ++ "; if it fails, fall back to " ++
      join " " dmesgArgv ++ " (denied => '" ++ dmesgDenied ++ "', exit 1 when dmesg_restrict=1; " ++
      "join the adm/systemd-journal group or retry with privilege).")
  else
    (false, "kernel " ++ target ++ ": " ++ journalctlArgv.headD [] ++ " not found; use " ++
      join " " dmesgArgv ++ " (denied => '" ++ dmesgDenied ++ "', exit 1 when dmesg_restrict=1; " ++
      "retry with privilege to read the kernel buffer).")

section Releases

variable [Interpreter] (isDigit : Char → Bool)

/-- `int` of a text of digits; a digit without a decimal value is refused. -/
def intOfDigits (text : Str) : Py Int :=
  if (takeDecimal text).length = text.length then intOfDecimal false (takeDecimal text)
  else .error (.valueError ("invalid literal for int() with base 10: " ++ pyRepr text))

/-- A number where `str.isdigit` says so, and -1 elsewhere. -/
def versionPart (chunk : Str) : Py Int :=
  if !chunk.isEmpty && chunk.all isDigit then intOfDigits chunk else .ok (-1)

def versionKey (rel : Str) : Py (List Int) := do
  let fields := rel.splitOn '-'
  let parts ← ((fields.headD []).splitOn '.').mapM (versionPart isDigit)
  let abinum ← versionPart isDigit (fields.tail.headD [])
  return parts ++ [abinum]

/-- The order of tuples: the first difference decides, and a longer one is greater. -/
def tupleGt : List Int → List Int → Bool
  | [], _ => false
  | _ :: _, [] => true
  | a :: left, b :: right => if a = b then tupleGt left right else decide (b < a)

def versionGt (candidate baseline : Str) : Bool :=
  match versionKey isDigit candidate, versionKey isDigit baseline with
  | .ok left, .ok right => tupleGt left right
  | _, _ => false

def rebootPending (host : Host) (platformRelease : Str) (runningRelease : Option Str) : Option Bool × Str :=
  let running := releaseOr runningRelease platformRelease
  let hasMarker := seen host "/var/run/reboot-required"
  let installed := match host.listdir "/lib/modules" with
    | .ok names => names.eraseDups
    | .error _ => []
  let newer := sortTexts (installed.filter fun rel => decide (rel ≠ running) && versionGt isDigit rel running)
  if newer ≠ [] then
    (some true, "installed kernel(s) " ++ join ", " newer ++ " newer than running " ++ running ++
      "; driver/firmware may exist only in the future tree")
  else if hasMarker then (some true, "reboot-required marker present")
  else if installed ≠ [] then (some false, "running " ++ running ++ " is the newest installed kernel")
  else (none, "cannot list /lib/modules")

end Releases

example : @versionGt asciiInterpreter isDecimalDigit "6.17.0-1020-oracle" "6.17.0-1018-oracle" = true := by
  decide +kernel

end DongleRescue.Linux
