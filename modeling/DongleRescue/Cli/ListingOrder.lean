import DongleRescue.Cli.Survival
import DongleRescue.Linux.RebootSignals

namespace DongleRescue.Cli

open DongleRescue.Data DongleRescue.Posix DongleRescue.Repair

/-! No command depends on the order in which a directory is read. -/

/-- The same names in any order, or the same failure. -/
inductive SameListing : Except HostFailure (List Str) → Except HostFailure (List Str) → Prop where
  | names {first second : List Str} (perm : first.Perm second) : SameListing (.ok first) (.ok second)
  | failure (failure : HostFailure) : SameListing (.error failure) (.error failure)

/-- The host with its directories read in another way. -/
def relisted (host : Host) (listdir : Str → Except HostFailure (List Str)) : Host := { host with listdir }

section Orders

variable {host : Host} {listdir : Str → Except HostFailure (List Str)}
  (same : ∀ path, SameListing (host.listdir path) (listdir path))
include same

theorem wifiIface_relisted (hint : Option Str) :
    Verification.wifiIface (relisted host listdir) hint = Verification.wifiIface host hint := by
  unfold Verification.wifiIface relisted
  simp only
  have listing := same "/sys/class/net"
  generalize host.listdir "/sys/class/net" = first at listing
  generalize listdir "/sys/class/net" = second at listing
  cases listing with
  | names perm =>
      simp only
      split
      · rfl
      · rw [sortTexts_eq_of_perm perm]
        rfl
  | failure => rfl

variable [Interpreter]

theorem enumerateUsbDevices_relisted (root : Str) :
    Usb.enumerateUsbDevices (relisted host listdir) root = Usb.enumerateUsbDevices host root := by
  unfold Usb.enumerateUsbDevices relisted
  simp only
  have listing := same root
  generalize host.listdir root = first at listing
  generalize listdir root = second at listing
  cases listing with
  | names perm =>
      simp only
      rw [sortTexts_eq_of_perm perm]
      rfl
  | failure => rfl

theorem rebootPending_relisted (isDigit : Char → Bool) (platformRelease : Str) (runningRelease : Option Str) :
    Linux.rebootPending isDigit (relisted host listdir) platformRelease runningRelease =
      Linux.rebootPending isDigit host platformRelease runningRelease := by
  have perm : (Linux.installedReleases (relisted host listdir)).Perm (Linux.installedReleases host) := by
    unfold Linux.installedReleases relisted
    simp only
    have listing := same "/lib/modules"
    generalize host.listdir "/lib/modules" = first at listing
    generalize listdir "/lib/modules" = second at listing
    cases listing with
    | names perm => exact eraseDups_perm fun rel => perm.symm.mem_iff
    | failure => exact .nil
  have newer : Linux.newerReleases (relisted host listdir) isDigit (Linux.releaseOr runningRelease platformRelease) =
      Linux.newerReleases host isDigit (Linux.releaseOr runningRelease platformRelease) :=
    sortTexts_eq_of_perm (perm.filter _)
  have empty : Linux.installedReleases (relisted host listdir) = [] ↔ Linux.installedReleases host = [] := by
    rw [← List.perm_nil, ← List.perm_nil]
    exact ⟨perm.symm.trans, perm.trans⟩
  rw [Linux.rebootPending_eq, Linux.rebootPending_eq, newer]
  simp only [Linux.signalAnswer, ne_eq, empty]
  rfl

theorem pickDevice_relisted (vidPid : Option Str) :
    pickDevice (some (relisted host listdir)) vidPid = pickDevice (some host) vidPid := by
  rw [pickDevice, pickDevice, enumerateUsbDevices_relisted same]

theorem cmdDiagnose_relisted (machine : Diagnostics.Machine) (opts : List (Str × Option Str)) (kb : Kb) :
    cmdDiagnose machine opts (some (relisted host listdir)) kb = cmdDiagnose machine opts (some host) kb := by
  rw [cmdDiagnose, cmdDiagnose, pickDevice_relisted same]
  refine congrArg (pickDevice (some host) (optValue opts "--device") >>= ·) (funext fun picked => ?_)
  cases picked with
  | none => rfl
  | some device => rfl

theorem cmdRepair_relisted (machine : Diagnostics.Machine) (opts : List (Str × Option Str)) (kb : Kb) :
    cmdRepair machine opts (some (relisted host listdir)) kb = cmdRepair machine opts (some host) kb := by
  rw [cmdRepair, cmdRepair, pickDevice_relisted same]
  split
  · rfl
  · refine congrArg (pickDevice (some host) (optValue opts "--device") >>= ·) (funext fun picked => ?_)
    cases picked with
    | none => rfl
    | some device => rfl

theorem verifyDevice_relisted (sysfsIface : Str) (dmesgLines : List Str) (netdevHint : Option Str) :
    Verification.verifyDevice (relisted host listdir) "wifi" sysfsIface dmesgLines netdevHint =
      Verification.verifyDevice host "wifi" sysfsIface dmesgLines netdevHint := by
  have adapter : Verification.adapterCheck (relisted host listdir) "wifi" netdevHint =
      Verification.adapterCheck host "wifi" netdevHint := by
    rw [Verification.adapterCheck, wifiIface_relisted same]
    rfl
  rw [Verification.verifyDevice, adapter]
  rfl

theorem cmdVerify_relisted (opts : List (Str × Option Str)) :
    cmdVerify opts (some (relisted host listdir)) = cmdVerify opts (some host) := by
  rw [cmdVerify, cmdVerify, pickDevice_relisted same]
  simp only [verifyDevice_relisted same]

theorem cmdDoctor_relisted (runtime : Runtime) (kb : Kb) :
    cmdDoctor runtime (some (relisted host listdir)) kb = cmdDoctor runtime (some host) kb := by
  have lines : hostLines runtime (relisted host listdir) = hostLines runtime host := by
    rw [hostLines, rebootPending_relisted same]
    rfl
  rw [cmdDoctor, Option.map_some, lines]
  rfl

/-- Whatever the command line, exit code and text are the same for every order in which the
directories may be read. -/
theorem run_relisted (runtime : Runtime) (loads : Loads) (journals : Journals) (kb : Option Kb)
    (journalPath : Option Str) (argv : List Str) :
    run runtime loads journals (some (relisted host listdir)) kb journalPath argv =
      run runtime loads journals (some host) kb journalPath argv := by
  rw [run, run]
  simp only [cmdDiagnose_relisted same, cmdRepair_relisted same, cmdVerify_relisted same, cmdDoctor_relisted same]

end Orders

def orderedHost : Host :=
  { dongleHost goldenAliases with listdir := fun _ => .ok ["1-2", "1-2:1.0", "usb1"] }

theorem run_relisted_reversed :
    let _ : Interpreter := asciiInterpreter
    run bareRuntime readLoads (fun _ => .decoded none)
        (some (relisted orderedHost fun _ => .ok ["usb1", "1-2:1.0", "1-2"])) none none ["report", "--json"] =
      run bareRuntime readLoads (fun _ => .decoded none) (some orderedHost) none none ["report", "--json"] := by
  intro _
  have same : ∀ path, SameListing (orderedHost.listdir path) (.ok ["usb1", "1-2:1.0", "1-2"]) :=
    fun _ => .names (by decide)
  exact run_relisted same bareRuntime readLoads _ none none _

end DongleRescue.Cli
