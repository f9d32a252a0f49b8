import DongleRescue.Firmware.Resolver
import DongleRescue.Usb.Enumeration

namespace DongleRescue.Verification

open DongleRescue.Data DongleRescue.Posix DongleRescue.Firmware

/-! Functional verification after a repair: one check for each link of the chain, and a
verdict over all of them. -/

/-- One step; `none` stands for an indeterminate one. -/
structure CheckResult where
  name : Str
  passed : Option Bool
  detail : Str
  source : Str

inductive Verdict where
  | hardwareFunctional
  | notFunctional
  | unknown
deriving DecidableEq

def Verdict.value : Verdict → Str
  | hardwareFunctional => "HARDWARE_FUNCTIONAL"
  | notFunctional => "NOT_FUNCTIONAL"
  | unknown => "UNKNOWN"

structure VerificationReport where
  kind : Str
  verdict : Verdict
  checks : List CheckResult
  criticalErrors : List Str

/-- A stripped read; no failure of the host gets through. -/
def read (host : Host) (path : Str) : Option Str :=
  match host.read path with
  | .ok raw => if strip raw = [] then none else some (strip raw)
  | .error _ => none

def wifiIface (host : Host) (hint : Option Str) : Option Str :=
  match host.listdir "/sys/class/net" with
  | .error _ => none
  | .ok names =>
      let candidates := if truthy hint then [hint.getD []] else names
      (sortTexts candidates).find? fun name =>
        truthy (read host ("/sys/class/net/" ++ name ++ "/phy80211/name"))

def btAdapter (host : Host) : Option Str :=
  match host.listdir "/sys/class/bluetooth" with
  | .error _ => none
  | .ok names =>
      (sortTexts names).find? fun name => truthy (read host ("/sys/class/bluetooth/" ++ name ++ "/address"))

def isCritical (line : Str) : Bool :=
  contains line "device descriptor read" || contains line "Lockdown:" ||
    contains line "module verification failed"

def adapterCheck (host : Host) (kind : Str) (netdevHint : Option Str) : CheckResult :=
  if kind = "wifi" then
    let iface := wifiIface host netdevHint
    { name := "interface_present"
      passed := some iface.isSome
      detail := if truthy iface then "netdev " ++ iface.getD [] else "no netdev with phy80211"
      source := "/sys/class/net/*/phy80211/name" }
  else
    let hci := btAdapter host
    { name := "hci_adapter_present"
      passed := some hci.isSome
      detail := if truthy hci then "adapter " ++ hci.getD [] else "no /sys/class/bluetooth/hci*"
      source := "/sys/class/bluetooth/hci*/address" }

/-- The link is read like a file. -/
def driverCheck (host : Host) (sysfsIface : Str) : CheckResult :=
  let drv := read host (sysfsIface ++ "/driver")
  { name := "driver_bound"
    passed := some (truthy drv)
    detail := if truthy drv then "bound to " ++ drv.getD [] else "no driver bound at " ++ sysfsIface
    source := sysfsIface ++ "/driver" }

def firmwareCheck (fwFailed adapterOk bound : Bool) : CheckResult where
  name := "firmware_loaded"
  passed := some (!fwFailed && adapterOk && bound)
  detail := if fwFailed then "firmware failure in log" else "no firmware failure signature for this session"
  source := "dmesg: 'Direct firmware load ... failed'"

def criticalCheck (criticals : List Str) : CheckResult where
  name := "no_critical_errors"
  passed := some criticals.isEmpty
  detail := if criticals = [] then "none found" else decimal criticals.length ++ " critical line(s)"
  source := "dmesg"

def verdictOf (checks : List CheckResult) : Verdict :=
  if checks.any fun check => check.passed.isNone then .unknown
  else if checks.all fun check => check.passed = some true then .hardwareFunctional
  else .notFunctional

section Verification

variable [Interpreter]

def verifyDevice (host : Host) (kind sysfsIface : Str) (dmesgLines : List Str) (netdevHint : Option Str) :
    Py VerificationReport :=
  if kind ≠ "wifi" ∧ kind ≠ "bt" then .error (.valueError ("unknown device kind: " ++ pyRepr kind))
  else
    let criticals := dmesgLines.filter isCritical
    let adapter := adapterCheck host kind netdevHint
    let driver := driverCheck host sysfsIface
    let fwFailed := dmesgLines.any fun line => (searchFailure line).isSome
    let firmware := firmwareCheck fwFailed (adapter.passed = some true) (driver.passed = some true)
    let checks := [adapter, driver, firmware, criticalCheck criticals]
    .ok { kind, verdict := verdictOf checks, checks, criticalErrors := criticals }

variable {host : Host} {kind sysfsIface : Str} {dmesgLines : List Str} {netdevHint : Option Str}
  {report : VerificationReport}

def driverPasses (report : VerificationReport) : Prop :=
  ∃ check ∈ report.checks, check.name = "driver_bound" ∧ check.passed = some true

omit [Interpreter] in
theorem adapterCheck_name : (adapterCheck host kind netdevHint).name ≠ "driver_bound" := by
  rw [adapterCheck]
  split
  · exact (by decide : ("interface_present" : Str) ≠ "driver_bound")
  · exact (by decide : ("hci_adapter_present" : Str) ≠ "driver_bound")

theorem driverPasses_iff (verified : verifyDevice host kind sysfsIface dmesgLines netdevHint = .ok report) :
    driverPasses report ↔ truthy (read host (sysfsIface ++ "/driver")) = true := by
  have firmware (failed adapterOk bound : Bool) : (firmwareCheck failed adapterOk bound).name ≠ "driver_bound" :=
    (by decide : ("firmware_loaded" : Str) ≠ "driver_bound")
  have critical (lines : List Str) : (criticalCheck lines).name ≠ "driver_bound" :=
    (by decide : ("no_critical_errors" : Str) ≠ "driver_bound")
  rw [verifyDevice] at verified
  split at verified
  · cases verified
  · have same := Except.ok.inj verified
    have checks := congrArg VerificationReport.checks same
    rw [driverPasses, ← checks]
    constructor
    · intro ⟨check, member, named, passed⟩
      rcases List.mem_cons.mp member with adapter | member
      · exact absurd (adapter ▸ named) adapterCheck_name
      rcases List.mem_cons.mp member with driver | member
      · rw [driver] at passed
        exact Option.some.inj passed
      rcases List.mem_cons.mp member with loaded | member
      · exact absurd (loaded ▸ named) (firmware _ _ _)
      · exact absurd (List.mem_singleton.mp member ▸ named) (critical _)
    · intro bound
      exact ⟨_, List.mem_cons_of_mem _ List.mem_cons_self, rfl, congrArg some bound⟩

/-- No regular file stands under the name `driver` of the node: a link to a directory, or nothing. -/
def LinkLayout (fs : FileSystem) (node : Str) : Prop :=
  ∀ content, fs.stat (node ++ "/driver") ≠ some (.file content)

omit [Interpreter] in
theorem read_link {fs : FileSystem} {strerror : Str → Str} {node : Str} (layout : LinkLayout fs node) :
    read (realHost fs strerror) (node ++ "/driver") = none := by
  have fails : ∃ failure, (realHost fs strerror).read (node ++ "/driver") = .error failure := by
    simp only [realHost]
    split
    · rename_i content found
      exact absurd found (layout content)
    · exact ⟨_, rfl⟩
  obtain ⟨failure, failed⟩ := fails
  rw [read, failed]

/-- The check agrees with the driver lookup exactly on nodes whose link leads nowhere: it
passes on none. -/
theorem driver_check_agrees_iff {fs : FileSystem} {strerror : Str → Str} (layout : LinkLayout fs sysfsIface)
    (verified : verifyDevice (realHost fs strerror) kind sysfsIface dmesgLines netdevHint = .ok report) :
    (driverPasses report ↔ ∃ driver, Usb.boundDriver (realHost fs strerror) sysfsIface = .ok (some driver)) ↔
      fs.exists_ (fs.realpath (sysfsIface ++ "/driver")) = false := by
  have fails : ¬ driverPasses report := by
    rw [driverPasses_iff verified, read_link layout]
    exact Bool.false_ne_true
  have bound : (∃ driver, Usb.boundDriver (realHost fs strerror) sysfsIface = .ok (some driver)) ↔
      fs.exists_ (fs.realpath (sysfsIface ++ "/driver")) = true := by
    simp only [Usb.boundDriver, realHost]
    cases fs.exists_ (fs.realpath (sysfsIface ++ "/driver")) with
    | true => simp
    | false => simp
  rw [bound, iff_false_left fails, Bool.not_eq_true]

end Verification

def wifiTree : Nodes :=
  [(["sys"], .dir), (["sys", "class"], .dir), (["sys", "class", "net"], .dir),
    (["sys", "class", "net", "wlan0"], .dir), (["sys", "class", "net", "wlan0", "phy80211"], .dir),
    (["sys", "class", "net", "wlan0", "phy80211", "name"], .file "phy0\n"),
    (["sys", "bus"], .dir), (["sys", "bus", "usb"], .dir), (["sys", "bus", "usb", "devices"], .dir),
    (["sys", "bus", "usb", "devices", "1-2:1.0"], .dir), (["sys", "bus", "usb", "drivers"], .dir),
    (["sys", "bus", "usb", "drivers", "mt7601u"], .dir)]

def wifiSystem (links : Nodes) : FileSystem where
  nodes := wifiTree ++ links
  cwd := []
  maxSymlinks := 40
  cwdCanonical := .root _

/-- The link of a bound interface, as the kernel lays it out. -/
def wifiLink : Location × Node :=
  (["sys", "bus", "usb", "devices", "1-2:1.0", "driver"], .symlink "../../drivers/mt7601u")

def wifiNode : Str := "/sys/bus/usb/devices/1-2:1.0"

theorem driver_check_agrees_unbound :
    ∃ report, @verifyDevice asciiInterpreter (realHost (wifiSystem []) id) "wifi" wifiNode [] none = .ok report ∧
      (driverPasses report ↔ ∃ driver, Usb.boundDriver (realHost (wifiSystem []) id) wifiNode = .ok (some driver)) := by
  let _ : Interpreter := asciiInterpreter
  have layout : LinkLayout (wifiSystem []) wifiNode := by
    have absent : (wifiSystem []).stat (wifiNode ++ "/driver") = none := by decide +kernel
    intro content found
    rw [absent] at found
    cases found
  have verified : verifyDevice (realHost (wifiSystem []) id) "wifi" wifiNode [] none = .ok _ := rfl
  exact ⟨_, verified, (driver_check_agrees_iff layout verified).mpr (by decide +kernel)⟩

/-- The interface is bound, and the check says it is not. -/
theorem driver_check_misses_link :
    (wifiSystem [wifiLink]).stat (wifiNode ++ "/driver") = some .dir ∧
      Usb.boundDriver (realHost (wifiSystem [wifiLink]) id) wifiNode = .ok (some "mt7601u") ∧
      ∃ report, @verifyDevice asciiInterpreter (realHost (wifiSystem [wifiLink]) id) "wifi" wifiNode [] none =
        .ok report ∧ ¬ driverPasses report ∧ report.verdict = .notFunctional := by
  let _ : Interpreter := asciiInterpreter
  have linked : (wifiSystem [wifiLink]).stat (wifiNode ++ "/driver") = some .dir := by decide +kernel
  have layout : LinkLayout (wifiSystem [wifiLink]) wifiNode := by
    intro content found
    rw [linked] at found
    cases found
  have verified : verifyDevice (realHost (wifiSystem [wifiLink]) id) "wifi" wifiNode [] none = .ok _ := rfl
  refine ⟨linked, by decide +kernel, _, verified, ?_, by decide +kernel⟩
  rw [driverPasses_iff verified, read_link layout]
  exact Bool.false_ne_true

end DongleRescue.Verification
