import DongleRescue.Cli.Learning
import DongleRescue.Firmware.HostCheck
import DongleRescue.Firmware.Probes
import DongleRescue.Linux.RebootSignals
import DongleRescue.Verification.Trichotomy

namespace DongleRescue.Cli

open DongleRescue.Data DongleRescue.Identification DongleRescue.Diagnostics DongleRescue.Repair
open DongleRescue.Firmware DongleRescue.Linux DongleRescue.Usb DongleRescue.Verification

/-! What is found out on a host that fails some accesses stays true on one that fails fewer. -/

/-- Every answer of an access stays; only failures may turn into answers. -/
structure Fuller (host other : Host) : Prop where
  read : ∀ path text, host.read path = .ok text → other.read path = .ok text
  «exists» : ∀ path present, host.exists path = .ok present → other.exists path = .ok present
  listdir : ∀ path names, host.listdir path = .ok names → other.listdir path = .ok names
  resolveRealpath : ∀ path real, host.resolveRealpath path = .ok real → other.resolveRealpath path = .ok real

/-- A decision stays, and what is open may be decided. -/
def Settles (first second : Option Bool) : Prop := ∀ answer, first = some answer → second = some answer

theorem kleeneOr_settles {first first' second second' : Option Bool} (left : Settles first first')
    (right : Settles second second') : Settles (kleeneOr first second) (kleeneOr first' second') := by
  intro answer decided
  cases answer with
  | true =>
      rw [kleeneOr_eq_some_true_iff] at decided ⊢
      exact decided.imp (left true) (right true)
  | false =>
      rw [kleeneOr_eq_some_false_iff] at decided ⊢
      exact ⟨left false decided.1, right false decided.2⟩

theorem kleeneAny_settles {α : Type} {probe probe' : α → Option Bool} {items : List α}
    (each : ∀ item ∈ items, Settles (probe item) (probe' item)) :
    Settles (kleeneAny (items.map probe)) (kleeneAny (items.map probe')) := by
  induction items with
  | nil => exact fun _ decided => decided
  | cons item items ih =>
      obtain ⟨here, later⟩ := List.forall_mem_cons.mp each
      rw [List.map_cons, List.map_cons, kleeneAny_cons, kleeneAny_cons]
      exact kleeneOr_settles here (ih later)

section Fuller

variable {host other : Host} (fuller : Fuller host other)
include fuller

theorem existsUnderRoot_settles {full root : Str} :
    Settles (existsUnderRoot host full root) (existsUnderRoot other full root) := by
  intro answer decided
  unfold existsUnderRoot at decided ⊢
  cases present : host.exists full with
  | error failure =>
      rw [present] at decided
      cases decided
  | ok there =>
      rw [present] at decided
      rw [fuller.exists full there present]
      cases there with
      | false => exact decided
      | true =>
          cases resolved : host.resolveRealpath full with
          | error failure =>
              rw [resolved] at decided
              cases decided
          | ok real =>
              rw [resolved] at decided
              rw [fuller.resolveRealpath full real resolved]
              exact decided

theorem boundDriver_fuller {path name : Str} (bound : boundDriver host path = .ok (some name)) :
    boundDriver other path = .ok (some name) := by
  rw [boundDriver_eq_some_iff] at bound ⊢
  obtain ⟨target, ⟨resolved, present⟩, named⟩ := bound
  exact ⟨target, ⟨fuller.resolveRealpath _ _ resolved, fuller.exists _ _ present⟩, named⟩

theorem driverBound_fuller {device : UsbDevice} (bound : DriverBound host device) : DriverBound other device := by
  have link : ∀ path, Bound host path → Bound other path := fun path ⟨target, ⟨resolved, present⟩, named⟩ =>
    ⟨target, ⟨fuller.resolveRealpath _ _ resolved, fuller.exists _ _ present⟩, named⟩
  exact bound.imp (link _) (link _)

theorem carries_fuller {path : Str} (carries : Carries (host.read path)) : Carries (other.read path) := by
  obtain ⟨raw, read, nonempty⟩ := carries
  exact ⟨raw, fuller.read _ _ read, nonempty⟩

theorem adapterFound_fuller {kind : Str} {netdevHint : Option Str} (found : AdapterFound host kind netdevHint) :
    AdapterFound other kind netdevHint := by
  obtain ⟨names, listed, name, member, carries⟩ := found
  exact ⟨names, fuller.listdir _ _ listed, name, member, carries_fuller fuller carries⟩

variable [Interpreter]

theorem checkFirmwarePresence_settles {module relPath root : Str} {st st' : FirmwareStatus}
    (checked : checkFirmwarePresence host module relPath root = .ok st)
    (checked' : checkFirmwarePresence other module relPath root = .ok st') : Settles st.installed st'.installed := by
  cases valid : fwNameValid relPath with
  | false =>
      rw [checkFirmwarePresence, valid] at checked
      cases checked
      intro answer decided
      cases decided
  | true =>
      rw [checkFirmwarePresence_eq valid] at checked checked'
      cases checked
      cases checked'
      rw [presenceStatus_parts.2.2, presenceStatus_parts.2.2]
      exact kleeneAny_settles fun form _ => existsUnderRoot_settles fuller

theorem firmwareExists_fuller {relPath root : Str} {answer : Bool}
    (checked : firmwareExists host relPath root = .ok (some answer)) :
    firmwareExists other relPath root = .ok (some answer) := by
  unfold firmwareExists at checked ⊢
  cases valid : requireFirmwarePath relPath with
  | error failure =>
      rw [valid] at checked
      cases failure with
      | valueError message => exact checked
      | keyError | attributeError | typeError | host => cases checked
  | ok rel =>
      rw [valid] at checked
      simp only at checked ⊢
      cases resolved : host.resolveRealpath (rstripSlashes root ++ '/' :: rel) with
      | error failure =>
          rw [resolved] at checked
          cases checked
      | ok real =>
          rw [resolved] at checked
          rw [fuller.resolveRealpath _ _ resolved]
          simp only at checked ⊢
          obtain ⟨common, joined, checked⟩ := bind_ok checked
          rw [joined]
          by_cases inside : common ≠ rstripSlashes root
          · rw [if_pos inside] at checked
            exact (if_pos inside).trans checked
          · rw [if_neg inside] at checked
            refine (if_neg inside).trans ?_
            cases present : host.exists real with
            | error failure =>
                rw [present] at checked
                cases checked
            | ok there =>
                rw [present] at checked
                rw [fuller.exists _ _ present]
                exact checked

theorem newerListed_fuller {isDigit : Char → Bool} {running : Str} (newer : NewerListed host isDigit running) :
    NewerListed other isDigit running := by
  obtain ⟨names, listed, rel, member, later⟩ := newer
  exact ⟨names, fuller.listdir _ _ listed, rel, member, later⟩

theorem rebootPending_true_fuller {isDigit : Char → Bool} {platformRelease : Str} {runningRelease : Option Str}
    (pending : (rebootPending isDigit host platformRelease runningRelease).1 = some true) :
    (rebootPending isDigit other platformRelease runningRelease).1 = some true := by
  rw [rebootPending_true_iff] at pending ⊢
  exact pending.imp (newerListed_fuller fuller) (fuller.exists _ _)

/-- That no reboot is pending stays true when the marker could be looked for. -/
theorem rebootPending_false_fuller {isDigit : Char → Bool} {platformRelease : Str} {runningRelease : Option Str}
    (looked : ¬ MarkerFailed host)
    (upToDate : (rebootPending isDigit host platformRelease runningRelease).1 = some false) :
    (rebootPending isDigit other platformRelease runningRelease).1 = some false := by
  have notPending : ¬ (NewerListed host isDigit (releaseOr runningRelease platformRelease) ∨ MarkerSeen host) := by
    rw [← rebootPending_true_iff, upToDate]
    decide
  obtain ⟨none, unmarked⟩ := not_or.mp notPending
  rw [rebootPending_silent none unmarked] at upToDate
  have installed : installedReleases host ≠ [] := by
    by_contra empty
    rw [if_neg (not_not.mpr empty)] at upToDate
    cases upToDate
  obtain ⟨names, listed, nonempty⟩ := installedReleases_ne_nil.mp installed
  have listed' := fuller.listdir _ _ listed
  have none' : ¬ NewerListed other isDigit (releaseOr runningRelease platformRelease) := by
    rintro ⟨names', relisted, newer⟩
    cases listed'.symm.trans relisted
    exact none ⟨names, listed, newer⟩
  have unmarked' : ¬ MarkerSeen other := by
    intro seen
    cases present : host.exists "/var/run/reboot-required" with
    | error failure => exact looked ⟨failure, present⟩
    | ok there =>
        cases (fuller.exists _ _ present).symm.trans seen
        exact unmarked present
  rw [rebootPending_silent none' unmarked', if_pos (installedReleases_ne_nil.mpr ⟨names, listed', nonempty⟩)]

theorem verifyDevice_fuller {kind sysfsIface : Str} {dmesgLines : List Str} {netdevHint : Option Str}
    {report : VerificationReport} (verified : verifyDevice host kind sysfsIface dmesgLines netdevHint = .ok report)
    (functional : report.verdict = .hardwareFunctional) :
    ∃ report', verifyDevice other kind sysfsIface dmesgLines netdevHint = .ok report' ∧
      report'.verdict = .hardwareFunctional := by
  by_cases known : kind = "wifi" ∨ kind = "bt"
  · rw [verifyDevice_eq known] at verified ⊢
    cases verified
    rw [functional_iff] at functional
    obtain ⟨adapter, driver, clean⟩ := functional
    refine ⟨_, rfl, functional_iff.mpr ⟨adapterFound_fuller fuller adapter, ?_, clean⟩⟩
    exact carries_fuller fuller driver
  · rw [verifyDevice, if_pos (by tauto)] at verified
    cases verified

omit [Interpreter] in
theorem hostAliasLines_fuller {release : Str} {aliasLines : List Str}
    (read : hostAliasLines host release = .ok aliasLines) : hostAliasLines other release = .ok aliasLines := by
  unfold hostAliasLines at read ⊢
  split
  · rename_i blank
    rw [if_pos blank] at read
    exact read
  · rename_i named
    rw [if_neg named, readAliasLines] at read
    cases content : host.read (modulesAliasPath release) with
    | error failure =>
        rw [content] at read
        cases read
    | ok text =>
        rw [content] at read
        rw [readAliasLines, fuller.read _ _ content]
        exact read

theorem diagnoseOne_fuller {machine : Machine} {device : UsbDevice} {kb : Kb} {release chipOverride : Option Str}
    {diagnosis diagnosis' : Diagnosis} {plan plan' : Plan}
    (diagnosed : diagnoseOne machine device host kb release chipOverride = .ok (diagnosis, plan))
    (diagnosed' : diagnoseOne machine device other kb release chipOverride = .ok (diagnosis', plan')) :
    KnowsMore diagnosis diagnosis' := by
  obtain ⟨aliasLines, res, driver, run⟩ := diagnoseOne_diagnosed diagnosed
  obtain ⟨aliasLines', res', driver', run'⟩ := diagnoseOne_diagnosed diagnosed'
  cases (hostAliasLines_fuller fuller run.read).symm.trans run'.read
  exact knowsMore run run' ⟨List.Subset.refl _, List.prefix_rfl, List.prefix_rfl, driverBound_fuller fuller⟩

end Fuller

/-- What was found out on the first host is found out on the second. -/
structure FindingsKept [Interpreter] (host other : Host) : Prop where
  presence : ∀ module relPath root st st', checkFirmwarePresence host module relPath root = .ok st →
    checkFirmwarePresence other module relPath root = .ok st' → Settles st.installed st'.installed
  firmware : ∀ relPath root answer, firmwareExists host relPath root = .ok (some answer) →
    firmwareExists other relPath root = .ok (some answer)
  driver : ∀ path name, boundDriver host path = .ok (some name) → boundDriver other path = .ok (some name)
  pending : ∀ isDigit platformRelease runningRelease,
    (rebootPending isDigit host platformRelease runningRelease).1 = some true →
      (rebootPending isDigit other platformRelease runningRelease).1 = some true
  upToDate : ¬ MarkerFailed host → ∀ isDigit platformRelease runningRelease,
    (rebootPending isDigit host platformRelease runningRelease).1 = some false →
      (rebootPending isDigit other platformRelease runningRelease).1 = some false
  functional : ∀ kind sysfsIface dmesgLines netdevHint report,
    verifyDevice host kind sysfsIface dmesgLines netdevHint = .ok report → report.verdict = .hardwareFunctional →
      ∃ report', verifyDevice other kind sysfsIface dmesgLines netdevHint = .ok report' ∧
        report'.verdict = .hardwareFunctional
  diagnosis : ∀ machine device kb release chipOverride diagnosis diagnosis' plan plan',
    diagnoseOne machine device host kb release chipOverride = .ok (diagnosis, plan) →
    diagnoseOne machine device other kb release chipOverride = .ok (diagnosis', plan') → KnowsMore diagnosis diagnosis'

/-- Failures cost answers and never turn one around: of two hosts whose accesses agree where the
first does not fail, the second finds out at least what the first does.  That no reboot is pending
needs an answer about the marker, whose failure is taken for its absence; a diagnosis that returned
on the first need not return on the second, whose driver link may lead to a target that cannot be
looked at. -/
theorem findings_kept [Interpreter] {host other : Host} (fuller : Fuller host other) : FindingsKept host other where
  presence _ _ _ _ _ := checkFirmwarePresence_settles fuller
  firmware _ _ _ := firmwareExists_fuller fuller
  driver _ _ := boundDriver_fuller fuller
  pending _ _ _ := rebootPending_true_fuller fuller
  upToDate looked _ _ _ := rebootPending_false_fuller fuller looked
  functional _ _ _ _ _ := verifyDevice_fuller fuller
  diagnosis _ _ _ _ _ _ _ _ _ := diagnoseOne_fuller fuller

/-- The bound dongle where no link may be resolved. -/
def hiddenLinks : Host := { linkedHost [interfaceLink] with resolveRealpath := fun path => .error (.osError path) }

theorem fuller_hiddenLinks : Fuller hiddenLinks (linkedHost [interfaceLink]) where
  read _ _ := id
  «exists» _ _ := id
  listdir _ _ := id
  resolveRealpath _ _ denied := by cases denied

/-- The missing firmware is still missing, and the chipset is still named, once the links are seen. -/
theorem findings_kept_dongle :
    let _ : Interpreter := asciiInterpreter
    ∃ st st' diagnosis diagnosis' plan plan',
      (checkFirmwarePresence hiddenLinks "rtw88" "rtw88/rtw8821c_fw.bin" firmwareRoot = .ok st ∧
        checkFirmwarePresence (linkedHost [interfaceLink]) "rtw88" "rtw88/rtw8821c_fw.bin" firmwareRoot = .ok st' ∧
        st.installed = some false ∧ st'.installed = some false) ∧
      diagnoseOne bareMachine goldenDevice hiddenLinks goldenKb none none = .ok (diagnosis, plan) ∧
      diagnoseOne bareMachine goldenDevice (linkedHost [interfaceLink]) goldenKb none none = .ok (diagnosis', plan') ∧
      diagnosis.identification.chipset = "RTL8811CU" ∧ diagnosis'.identification.chipset = "RTL8811CU" := by
  intro _
  have kept := findings_kept fuller_hiddenLinks
  have checked : checkFirmwarePresence hiddenLinks "rtw88" "rtw88/rtw8821c_fw.bin" firmwareRoot = .ok _ :=
    checkFirmwarePresence_eq (by decide)
  have checked' : checkFirmwarePresence (linkedHost [interfaceLink]) "rtw88" "rtw88/rtw8821c_fw.bin" firmwareRoot =
      .ok _ := checkFirmwarePresence_eq (by decide)
  have diagnosed : diagnoseOne bareMachine goldenDevice hiddenLinks goldenKb none none = .ok (_, _) := rfl
  have diagnosed' : diagnoseOne bareMachine goldenDevice (linkedHost [interfaceLink]) goldenKb none none =
      .ok (_, _) := rfl
  have missing : (presenceStatus hiddenLinks "rtw88" (Posix.normpath "rtw88/rtw8821c_fw.bin")
      (rstripSlashes firmwareRoot)).installed = some false := by decide +kernel
  have more := kept.diagnosis _ _ _ _ _ _ _ _ _ diagnosed diagnosed'
  refine ⟨_, _, _, _, _, _, ⟨checked, checked', missing, ?_⟩, diagnosed, diagnosed', ?_, ?_⟩
  · exact kept.presence _ _ _ _ _ checked checked' false missing
  · decide +kernel
  · rw [more.chipset (by decide +kernel)]
    decide +kernel

end DongleRescue.Cli
