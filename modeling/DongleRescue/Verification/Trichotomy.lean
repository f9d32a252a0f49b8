import DongleRescue.Verification.Checker

namespace DongleRescue.Verification

open DongleRescue.Data DongleRescue.Firmware

/-! What stands behind each verdict.  Every check comes out definite, so that a failed access of
the host counts against the device like an absent file. -/

/-- The access gave a text that is not blank. -/
def Carries (access : Except HostFailure Str) : Prop := ∃ raw, access = .ok raw ∧ strip raw ≠ []

def classDirectory (kind : Str) : Str := if kind = "wifi" then "/sys/class/net" else "/sys/class/bluetooth"

/-- The file that makes a name of the class directory an adapter. -/
def adapterFile (kind name : Str) : Str :=
  if kind = "wifi" then "/sys/class/net/" ++ name ++ "/phy80211/name" else "/sys/class/bluetooth/" ++ name ++ "/address"

def adapterName (kind : Str) : Str := if kind = "wifi" then "interface_present" else "hci_adapter_present"

/-- The names that are looked at; a hint replaces the listed ones, for Wi-Fi. -/
def candidateNames (kind : Str) (netdevHint : Option Str) (names : List Str) : List Str :=
  if kind = "wifi" ∧ truthy netdevHint = true then [netdevHint.getD []] else names

section Checks

variable {host : Host} {kind sysfsIface : Str} {netdevHint : Option Str}

def AdapterFound (host : Host) (kind : Str) (netdevHint : Option Str) : Prop :=
  ∃ names, host.listdir (classDirectory kind) = .ok names ∧
    ∃ name ∈ candidateNames kind netdevHint names, Carries (host.read (adapterFile kind name))

def DriverRead (host : Host) (sysfsIface : Str) : Prop := Carries (host.read (sysfsIface ++ "/driver"))

theorem truthy_read_iff {path : Str} : truthy (read host path) = true ↔ Carries (host.read path) := by
  unfold Carries
  rw [truthy_iff, read]
  cases host.read path with
  | error failure => simp
  | ok raw =>
      by_cases blank : strip raw = []
      · simp [blank]
      · simp [blank]

theorem isSome_search_iff {names : List Str} {file : Str → Str} :
    ((sortTexts names).find? fun name => truthy (read host (file name))).isSome = true ↔
      ∃ name ∈ names, Carries (host.read (file name)) := by
  rw [List.find?_isSome]
  constructor
  · intro ⟨name, member, found⟩
    exact ⟨name, (sortTexts_perm names).mem_iff.mp member, truthy_read_iff.mp found⟩
  · intro ⟨name, member, found⟩
    exact ⟨name, (sortTexts_perm names).mem_iff.mpr member, truthy_read_iff.mpr found⟩

/-- Both kinds of adapter are found by one search. -/
theorem adapterCheck_passed : (adapterCheck host kind netdevHint).passed =
    some (match host.listdir (classDirectory kind) with
      | .error _ => none
      | .ok names => (sortTexts (candidateNames kind netdevHint names)).find? fun name =>
          truthy (read host (adapterFile kind name)) : Option Str).isSome := by
  unfold adapterCheck classDirectory candidateNames adapterFile
  by_cases wifi : kind = "wifi"
  · simp only [wifi, true_and]
    rfl
  · simp only [wifi, false_and, if_false]
    rfl

theorem adapterCheck_passed_iff :
    (adapterCheck host kind netdevHint).passed = some true ↔ AdapterFound host kind netdevHint := by
  rw [adapterCheck_passed, Option.some.injEq, AdapterFound]
  cases host.listdir (classDirectory kind) with
  | error failure => simp
  | ok names =>
      refine isSome_search_iff.trans ?_
      simp

theorem driverCheck_passed_iff : (driverCheck host sysfsIface).passed = some true ↔ DriverRead host sysfsIface := by
  have passed : (driverCheck host sysfsIface).passed = some (truthy (read host (sysfsIface ++ "/driver"))) := rfl
  rw [passed, Option.some.injEq]
  exact truthy_read_iff

end Checks

/-- Neither a firmware failure nor a critical signature. -/
def CleanLog [Interpreter] (lines : List Str) : Prop := ∀ line ∈ lines, searchFailure line = none ∧ isCritical line = false

section Verdicts

variable [Interpreter] {host : Host} {kind sysfsIface : Str} {lines : List Str} {netdevHint : Option Str}
  {report : VerificationReport}

/-- The checks of a report. -/
def checksOf (host : Host) (kind sysfsIface : Str) (lines : List Str) (netdevHint : Option Str) : List CheckResult :=
  let adapter := adapterCheck host kind netdevHint
  let driver := driverCheck host sysfsIface
  [adapter, driver, firmwareCheck (lines.any fun line => (searchFailure line).isSome)
    (adapter.passed = some true) (driver.passed = some true), criticalCheck (lines.filter isCritical)]

theorem verifyDevice_eq (known : kind = "wifi" ∨ kind = "bt") :
    verifyDevice host kind sysfsIface lines netdevHint = .ok {
      kind
      verdict := verdictOf (checksOf host kind sysfsIface lines netdevHint)
      checks := checksOf host kind sysfsIface lines netdevHint
      criticalErrors := lines.filter isCritical } := by
  rw [verifyDevice, if_neg (by tauto)]
  rfl

/-- No check is ever indeterminate. -/
theorem checksOf_definite : ∀ check ∈ checksOf host kind sysfsIface lines netdevHint, check.passed ≠ none := by
  rw [checksOf, List.forall_mem_cons, List.forall_mem_cons, List.forall_mem_cons, List.forall_mem_singleton]
  refine ⟨?_, Option.some_ne_none _, Option.some_ne_none _, Option.some_ne_none _⟩
  rw [adapterCheck_passed]
  exact Option.some_ne_none _

theorem verdictOf_checksOf_ne : verdictOf (checksOf host kind sysfsIface lines netdevHint) ≠ .unknown := by
  have definite : (checksOf host kind sysfsIface lines netdevHint).any (fun check => check.passed.isNone) = false := by
    rw [List.any_eq_false]
    intro check member
    simpa using checksOf_definite check member
  rw [verdictOf, definite]
  simp only [Bool.false_eq_true, if_false]
  split
  · exact Verdict.noConfusion
  · exact Verdict.noConfusion

theorem cleanLog_iff : CleanLog lines ↔
    (lines.any fun line => (searchFailure line).isSome) = false ∧ lines.filter isCritical = [] := by
  rw [List.any_eq_false, List.filter_eq_nil_iff]
  constructor
  · intro clean
    exact ⟨fun line member => by simp [(clean line member).1], fun line member => by simp [(clean line member).2]⟩
  · intro ⟨failureless, uncritical⟩ line member
    exact ⟨by simpa using failureless line member, by simpa using uncritical line member⟩

omit [Interpreter] in
theorem verdictOf_functional_iff {checks : List CheckResult} :
    verdictOf checks = .hardwareFunctional ↔ ∀ check ∈ checks, check.passed = some true := by
  rw [verdictOf]
  constructor
  · intro functional
    split at functional
    · cases functional
    · split at functional
      · rename_i all
        simpa using all
      · cases functional
  · intro passed
    have definite : ¬ (checks.any fun check => check.passed.isNone) = true := by
      rw [List.any_eq_true]
      rintro ⟨check, member, missing⟩
      rw [passed check member] at missing
      cases missing
    rw [if_neg definite, if_pos (by simpa using passed)]

theorem functional_iff : verdictOf (checksOf host kind sysfsIface lines netdevHint) = .hardwareFunctional ↔
    AdapterFound host kind netdevHint ∧ DriverRead host sysfsIface ∧ CleanLog lines := by
  rw [verdictOf_functional_iff, checksOf, List.forall_mem_cons, List.forall_mem_cons, List.forall_mem_cons,
    List.forall_mem_singleton, ← @adapterCheck_passed_iff host kind, ← driverCheck_passed_iff, cleanLog_iff]
  constructor
  · intro ⟨adapter, driver, firmware, critical⟩
    have loaded := Option.some.inj firmware
    rw [Bool.and_eq_true, Bool.and_eq_true, Bool.not_eq_true'] at loaded
    exact ⟨adapter, driver, loaded.1.1, List.isEmpty_iff.mp (Option.some.inj critical)⟩
  · intro ⟨adapter, driver, failureless, uncritical⟩
    refine ⟨adapter, driver, ?_, congrArg some (List.isEmpty_iff.mpr uncritical)⟩
    refine congrArg some ?_
    rw [failureless, decide_eq_true adapter, decide_eq_true driver]
    rfl

end Verdicts

/-- A check meets a failure in an access that its own result needs.  The firmware check asks the
host nothing: it takes the results of the other two. -/
inductive Meets (host : Host) (kind sysfsIface : Str) (netdevHint : Option Str) : Str → HostFailure → Prop where
  | listing {failure : HostFailure} (raised : host.listdir (classDirectory kind) = .error failure) :
      Meets host kind sysfsIface netdevHint (adapterName kind) failure
  | candidate {names : List Str} {name : Str} {failure : HostFailure}
      (listed : host.listdir (classDirectory kind) = .ok names) (member : name ∈ candidateNames kind netdevHint names)
      (raised : host.read (adapterFile kind name) = .error failure) :
      Meets host kind sysfsIface netdevHint (adapterName kind) failure
  | driver {failure : HostFailure} (raised : host.read (sysfsIface ++ "/driver") = .error failure) :
      Meets host kind sysfsIface netdevHint "driver_bound" failure

/-- What the verdicts are documented to mean, where `absence` are the failures that report that a
path does not exist. -/
structure Trichotomy [Interpreter] (absence : HostFailure → Prop) (host : Host) (kind sysfsIface : Str)
    (lines : List Str) (netdevHint : Option Str) (report : VerificationReport) : Prop where
  functional : report.verdict = .hardwareFunctional ↔
    AdapterFound host kind netdevHint ∧ DriverRead host sysfsIface ∧ CleanLog lines
  unlisted : (∃ failure, host.listdir (classDirectory kind) = .error failure) → report.verdict = .unknown ∧
    ∃ check ∈ report.checks, check.name = adapterName kind ∧ check.passed = none
  broken : report.verdict = .notFunctional → ∀ check ∈ report.checks, check.passed = some false →
    ∀ failure, Meets host kind sysfsIface netdevHint check.name failure → absence failure

/-- The directory was listed, and where nothing was found every file that was asked for could be read
or is absent. -/
structure Looked (absence : HostFailure → Prop) (host : Host) (kind sysfsIface : Str) (netdevHint : Option Str) :
    Prop where
  listed : ∃ names, host.listdir (classDirectory kind) = .ok names
  adapter : AdapterFound host kind netdevHint ∨ ∀ names, host.listdir (classDirectory kind) = .ok names →
    ∀ name ∈ candidateNames kind netdevHint names, ∀ failure,
      host.read (adapterFile kind name) = .error failure → absence failure
  driver : DriverRead host sysfsIface ∨ ∀ failure,
    host.read (sysfsIface ++ "/driver") = .error failure → absence failure

section Trichotomies

variable [Interpreter] {absence : HostFailure → Prop} {host : Host} {kind sysfsIface : Str} {lines : List Str}
  {netdevHint : Option Str} {report : VerificationReport}

omit [Interpreter] in
theorem adapterCheck_named : (adapterCheck host kind netdevHint).name = adapterName kind := by
  unfold adapterCheck adapterName
  split
  · rfl
  · rfl

/-- A report that is not of a functional device is of a broken one. -/
theorem notFunctional_of_not (known : kind = "wifi" ∨ kind = "bt")
    (verified : verifyDevice host kind sysfsIface lines netdevHint = .ok report)
    (not : report.verdict ≠ .hardwareFunctional) : report.verdict = .notFunctional := by
  rw [verifyDevice_eq known] at verified
  rw [← Except.ok.inj verified] at not ⊢
  cases verdict : verdictOf (checksOf host kind sysfsIface lines netdevHint) with
  | hardwareFunctional => exact absurd verdict not
  | notFunctional => rfl
  | unknown => exact absurd verdict verdictOf_checksOf_ne

omit [Interpreter] in
theorem adapterName_notMem (kind : Str) :
    adapterName kind ∉ (["driver_bound", "firmware_loaded", "no_critical_errors"] : List Str) := by
  unfold adapterName
  split
  · decide
  · decide

theorem nodup_names : ((checksOf host kind sysfsIface lines netdevHint).map CheckResult.name).Nodup := by
  have others : (["driver_bound", "firmware_loaded", "no_critical_errors"] : List Str).Nodup := by decide
  rw [checksOf, List.map_cons, adapterCheck_named, List.nodup_cons]
  exact ⟨adapterName_notMem kind, others⟩

/-- A check is known by its name. -/
theorem eq_of_name {check : CheckResult} (member : check ∈ checksOf host kind sysfsIface lines netdevHint) :
    (check.name = adapterName kind → check = adapterCheck host kind netdevHint) ∧
      (check.name = "driver_bound" → check = driverCheck host sysfsIface) := by
  have nodup : ((checksOf host kind sysfsIface lines netdevHint).map CheckResult.name).Nodup := nodup_names
  constructor
  · intro adapter
    exact List.inj_on_of_nodup_map nodup member List.mem_cons_self (adapter.trans adapterCheck_named.symm)
  · intro driver
    exact List.inj_on_of_nodup_map nodup member (List.mem_cons_of_mem _ List.mem_cons_self) driver

omit [Interpreter] in
theorem failed_of_not_passed {passed : Option Bool} (definite : passed ≠ none) (not : passed ≠ some true) :
    passed = some false := by
  cases passed with
  | none => exact absurd rfl definite
  | some value =>
      cases value with
      | false => rfl
      | true => exact absurd rfl not

theorem Trichotomy.looked (known : kind = "wifi" ∨ kind = "bt")
    (verified : verifyDevice host kind sysfsIface lines netdevHint = .ok report)
    (trichotomy : Trichotomy absence host kind sysfsIface lines netdevHint report) :
    Looked absence host kind sysfsIface netdevHint := by
  have checks : report.checks = checksOf host kind sysfsIface lines netdevHint := by
    rw [verifyDevice_eq known] at verified
    rw [← Except.ok.inj verified]
  have adapterIn : adapterCheck host kind netdevHint ∈ report.checks := checks ▸ List.mem_cons_self
  have driverIn : driverCheck host sysfsIface ∈ report.checks :=
    checks ▸ List.mem_cons_of_mem _ List.mem_cons_self
  have definite : ∀ check ∈ report.checks, check.passed ≠ none := checks ▸ checksOf_definite
  refine ⟨?_, ?_, ?_⟩
  · cases listed : host.listdir (classDirectory kind) with
    | ok names => exact ⟨names, rfl⟩
    | error failure =>
        obtain ⟨_, check, member, _, missing⟩ := trichotomy.unlisted ⟨failure, listed⟩
        exact absurd missing (definite check member)
  · by_cases found : AdapterFound host kind netdevHint
    · exact .inl found
    · have broken := notFunctional_of_not known verified fun functional =>
        found (trichotomy.functional.mp functional).1
      have failed := failed_of_not_passed (definite _ adapterIn) fun passed => found (adapterCheck_passed_iff.mp passed)
      refine .inr fun names listed name member failure raised => ?_
      refine trichotomy.broken broken _ adapterIn failed failure ?_
      rw [adapterCheck_named]
      exact .candidate listed member raised
  · by_cases found : DriverRead host sysfsIface
    · exact .inl found
    · have broken := notFunctional_of_not known verified fun functional =>
        found (trichotomy.functional.mp functional).2.1
      have failed := failed_of_not_passed (definite _ driverIn) fun passed => found (driverCheck_passed_iff.mp passed)
      exact .inr fun failure raised => trichotomy.broken broken _ driverIn failed failure (.driver raised)

theorem Looked.trichotomy (looked : Looked absence host kind sysfsIface netdevHint)
    (known : kind = "wifi" ∨ kind = "bt")
    (verified : verifyDevice host kind sysfsIface lines netdevHint = .ok report) :
    Trichotomy absence host kind sysfsIface lines netdevHint report := by
  rw [verifyDevice_eq known] at verified
  rw [← Except.ok.inj verified]
  obtain ⟨names, listed⟩ := looked.listed
  refine ⟨functional_iff, ?_, ?_⟩
  · rintro ⟨failure, raised⟩
    rw [listed] at raised
    cases raised
  · intro _ check member failed failure meets
    generalize named : check.name = name at meets
    cases meets with
    | listing raised =>
        rw [listed] at raised
        cases raised
    | candidate listed' inNames raised =>
        rw [(eq_of_name member).1 named] at failed
        rcases looked.adapter with found | absent
        · rw [adapterCheck_passed_iff.mpr found] at failed
          cases failed
        · exact absent _ listed' _ inNames failure raised
    | driver raised =>
        rw [(eq_of_name member).2 named] at failed
        rcases looked.driver with found | absent
        · rw [driverCheck_passed_iff.mpr found] at failed
          cases failed
        · exact absent failure raised

/-- The verdict follows its documentation exactly when the host could be looked at. -/
theorem trichotomy_iff_looked (absence : HostFailure → Prop) (host : Host) (sysfsIface : Str) (lines : List Str)
    (netdevHint : Option Str) (known : kind = "wifi" ∨ kind = "bt") :
    ∃ report, verifyDevice host kind sysfsIface lines netdevHint = .ok report ∧
      (Trichotomy absence host kind sysfsIface lines netdevHint report ↔
        Looked absence host kind sysfsIface netdevHint) := by
  refine ⟨_, verifyDevice_eq known, ?_⟩
  constructor
  · exact fun trichotomy => trichotomy.looked known (verifyDevice_eq known)
  · exact fun looked => looked.trichotomy known (verifyDevice_eq known)

end Trichotomies

/-- The fixture of a working dongle. -/
def scriptedHost : Host :=
  { tableHost [("/sys/class/net/wlan0/phy80211/name", "phy0"), (wifiNode ++ "/driver", "mt7601u")] [] [] with
    listdir := fun _ => .ok ["wlan0"] }

theorem trichotomy_scripted : ∃ report,
    @verifyDevice asciiInterpreter scriptedHost "wifi" wifiNode [] none = .ok report ∧
      @Trichotomy asciiInterpreter (fun _ => False) scriptedHost "wifi" wifiNode [] none report := by
  let _ : Interpreter := asciiInterpreter
  have looked : Looked (fun _ => False) scriptedHost "wifi" wifiNode none := by
    refine ⟨⟨_, rfl⟩, .inl ⟨["wlan0"], rfl, "wlan0", List.mem_singleton_self _, "phy0", by decide +kernel, ?_⟩, .inl ?_⟩
    · decide
    · exact ⟨"mt7601u", by decide +kernel, by decide⟩
  obtain ⟨report, verified, iff⟩ := trichotomy_iff_looked (fun _ => False) scriptedHost wifiNode [] none (.inl rfl)
  exact ⟨report, verified, iff.mpr looked⟩

/-- The class directory cannot be listed, and the hardware is said to be broken. -/
theorem unlisted_is_broken :
    (tableHost [(wifiNode ++ "/driver", "mt7601u")] [] []).listdir "/sys/class/net" =
        .error (.hostError "listdir /sys/class/net: No such directory") ∧
      ∃ report, @verifyDevice asciiInterpreter (tableHost [(wifiNode ++ "/driver", "mt7601u")] [] []) "wifi" wifiNode []
        none = .ok report ∧ report.verdict = .notFunctional ∧ ∀ check ∈ report.checks, check.passed ≠ none := by
  let _ : Interpreter := asciiInterpreter
  refine ⟨rfl, _, verifyDevice_eq (.inl rfl), by decide +kernel, checksOf_definite⟩

end DongleRescue.Verification
