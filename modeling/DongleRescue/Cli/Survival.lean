import DongleRescue.Cli.Reports
import DongleRescue.Usb.Survey

namespace DongleRescue.Cli

open DongleRescue.Data DongleRescue.Identification DongleRescue.Diagnostics DongleRescue.Repair DongleRescue.Usb

/-! When the commands over a host return: which failures of the host and which names it
gives get through them. -/

/-- An id of a node as the device will carry it. -/
def idOf (host : Host) (path name : Str) : Str :=
  match readAttr host path name with
  | .ok (some text) => lower text
  | _ => []

def nodePath (name : Str) : Str := usbDevicesRoot ++ '/' :: name

def nodeIds (host : Host) (name : Str) : Str :=
  idOf host (nodePath name) "idVendor" ++ ':' :: idOf host (nodePath name) "idProduct"

def asksFor (host : Host) (spec : Option Str) (name : Str) : Bool :=
  !truthy spec || decide (nodeIds host name = lower (spec.getD []))

/-- The first complete node, in the order of the names, that the argument asks for. -/
def chosenNode (host : Host) (spec : Option Str) : Option Str :=
  ((sortTexts (listing host usbDevicesRoot)).filter (complete host usbDevicesRoot)).find? (asksFor host spec)

section Choice

variable [Interpreter] {host : Host} {spec : Option Str} {name : Str} {device : UsbDevice}

/-- The class numbers of every complete node are numbers. -/
def Surveyable (host : Host) : Prop :=
  ∀ name ∈ listing host usbDevicesRoot, complete host usbDevicesRoot name = true →
    NumericClass host (nodePath name)

omit [Interpreter] in
theorem idOf_eq {path attr id : Str} (has : HasId host path attr id) : idOf host path attr = id := by
  obtain ⟨text, read, same⟩ := has
  rw [idOf, read, same]

omit [Interpreter] in
theorem idOf_device (isDevice : IsDeviceOf host usbDevicesRoot name device) :
    idOf host (nodePath name) "idVendor" = device.vid ∧ idOf host (nodePath name) "idProduct" = device.pid :=
  ⟨idOf_eq isDevice.vid, idOf_eq isDevice.pid⟩

omit [Interpreter] in
theorem nodeIds_eq (isDevice : IsDeviceOf host usbDevicesRoot name device) :
    nodeIds host name = device.vidPid := by
  obtain ⟨vid, pid⟩ := idOf_device isDevice
  rw [nodeIds, vid, pid, UsbDevice.vidPid]

/-- The device that is picked is the one of the chosen node. -/
theorem pickDevice_spec (only : RaisesHostError host) {devices : List UsbDevice}
    (returned : enumerateUsbDevices host usbDevicesRoot = .ok devices) :
    (chosenNode host spec = none ∧ pickDevice (some host) spec = .ok none) ∨
      ∃ name device, chosenNode host spec = some name ∧ pickDevice (some host) spec = .ok (some device) ∧
        IsDeviceOf host usbDevicesRoot name device ∧ ClassRead host (nodePath name) device := by
  have related := enumerateUsbDevices_read only returned
  have agree : ∀ name device,
      IsDeviceOf host usbDevicesRoot name device ∧ ClassRead host (nodePath name) device →
      asksFor host spec name = (!truthy spec || decide (device.vidPid = lower (spec.getD []))) := by
    intro name device ⟨isDevice, _⟩
    rw [asksFor, nodeIds_eq isDevice]
  have picked : pickDevice (some host) spec =
      .ok (devices.find? fun device => !truthy spec || decide (device.vidPid = lower (spec.getD []))) := by
    simp only [pickDevice, returned]
    cases truthy spec with
    | true =>
        rw [← List.head?_filter]
        rfl
    | false => cases devices <;> rfl
  rw [picked, chosenNode]
  rcases find?_of_forall₂ related agree with ⟨noNode, noDevice⟩ | ⟨name, device, node, found, isDevice⟩
  · exact .inl ⟨noNode, by rw [noDevice]⟩
  · exact .inr ⟨name, device, node, by rw [found], isDevice⟩

theorem pickDevice_raises (only : RaisesHostError host) (unreadable : ¬ Surveyable host) :
    ∃ failure, pickDevice (some host) spec = .error failure := by
  cases returned : enumerateUsbDevices host usbDevicesRoot with
  | ok devices => exact absurd ((enumerateUsbDevices_returns_iff only).mp ⟨devices, returned⟩) unreadable
  | error failure =>
      simp only [pickDevice, returned]
      exact ⟨failure, rfl⟩

end Choice

/-- Once the driver link of a node is resolved, the host says whether its target exists. -/
def LinkAnswers (host : Host) (path : Str) : Prop :=
  ∀ target, host.resolveRealpath (path ++ "/driver") = .ok target → ∃ present, host.exists target = .ok present

/-- The name at the end of a driver link that leads to something. -/
def linkName (host : Host) (path : Str) : Option Str :=
  match host.resolveRealpath (path ++ "/driver") with
  | .error _ => none
  | .ok target =>
      match host.exists target with
      | .ok true => some (basename target)
      | _ => none

/-- Every entry has a name and a confidence of the scale, and names a module when it says that
one can be bound. -/
structure Serviceable (kb : Kb) : Prop where
  schema : kb.SchemaValid
  candidate : ∀ entry ∈ kb.chipsets, entry.feasible = true →
    truthy (pyOr entry.preferredModule entry.newIdModules.head?) = true

/-- Where the entry of the ids can be bound, the name it is bound by is one of a module: the
driver's, or else the entry's own. -/
def Plannable (kb : Kb) (vid pid : Str) (driver : Option Str) : Prop :=
  ∀ entry, findEntry kb vid pid = some entry → entry.feasible = true →
    ∀ module ∈ pyOr driver (pyOr entry.preferredModule entry.newIdModules.head?), isModuleName module = true

section Stages

variable [Interpreter] {host : Host} {path : Str} {device : UsbDevice} {kb : Kb} {machine : Machine}
  {driver release : Option Str}

omit [Interpreter] in
theorem truthy_pyOr {right : Option Str} (true_ : truthy right = true) (left : Option Str) :
    truthy (pyOr left right) = true := by
  cases first : truthy left with
  | true => rw [pyOr_of_truthy first, first]
  | false => rw [pyOr_of_not_truthy first, true_]

omit [Interpreter] in
theorem boundDriver_eq (answers : LinkAnswers host path) : boundDriver host path = .ok (linkName host path) := by
  rw [boundDriver, linkName]
  cases resolved : host.resolveRealpath (path ++ "/driver") with
  | error failure => rfl
  | ok target =>
      obtain ⟨present, found⟩ := answers target resolved
      simp only [found]
      cases present <;> rfl

omit [Interpreter] in
theorem boundDriver_answers {found : Option Str} (read : boundDriver host path = .ok found) :
    LinkAnswers host path := by
  intro target resolved
  rw [boundDriver, resolved] at read
  cases present : host.exists target with
  | ok there => exact ⟨there, rfl⟩
  | error failure =>
      simp only [present] at read
      cases read

/-- The interface is asked first, and the device only when the interface is not bound. -/
structure DriverAnswers (host : Host) (path : Str) : Prop where
  interface : LinkAnswers host (path ++ ":1.0")
  device : truthy (linkName host (path ++ ":1.0")) = false → LinkAnswers host path

def driverName (host : Host) (path : Str) : Option Str :=
  pyOr (linkName host (path ++ ":1.0")) (linkName host path)

omit [Interpreter] in
theorem driverOf_eq (answers : DriverAnswers host device.sysfsPath) :
    driverOf host device = .ok (driverName host device.sysfsPath) := by
  unfold driverOf firstInterface driverName
  rw [boundDriver_eq answers.interface]
  cases bound : truthy (linkName host (device.sysfsPath ++ ":1.0")) with
  | true =>
      rw [pyOr_of_truthy bound]
      exact if_pos bound
  | false =>
      rw [pyOr_of_not_truthy bound, ← boundDriver_eq (answers.device bound)]
      exact if_neg (by rw [bound]; exact Bool.false_ne_true)

omit [Interpreter] in
theorem driverOf_answers (read : driverOf host device = .ok driver) :
    DriverAnswers host device.sysfsPath := by
  unfold driverOf firstInterface at read
  obtain ⟨first, firstRead, read⟩ := bind_ok read
  have interface := boundDriver_answers firstRead
  refine ⟨interface, fun unbound => ?_⟩
  rw [boundDriver_eq interface] at firstRead
  cases firstRead
  rw [unbound] at read
  exact boundDriver_answers read

theorem planStateB_returns_iff (serviceable : Serviceable kb) :
    (∃ plan, planStateB device kb driver none = .ok plan) ↔ Plannable kb device.vid device.pid driver := by
  constructor
  · intro ⟨plan, planned⟩ entry found feasible module chosen
    cases planStateB_planned planned with
    | unknown missing =>
        rw [found] at missing
        cases missing
    | refused found' infeasible =>
        rw [found] at found'
        cases found'
        rw [feasible] at infeasible
        cases infeasible
    | bind found' _ chosen' valid =>
        rw [found] at found'
        cases found'
        have same := chosen.symm.trans chosen'
        cases same
        exact valid
  · intro plannable
    cases found : findEntry kb device.vid device.pid with
    | none =>
        simp only [planStateB, found]
        exact ⟨_, rfl⟩
    | some entry =>
        have member := List.mem_of_find?_eq_some found
        obtain ⟨chipset, named⟩ := (serviceable.schema entry member).1
        cases feasible : entry.feasible with
        | false =>
            have level : ∃ level, entry.level "HIGH_CONFIDENCE" = .ok level :=
              Kb.SchemaValid.level serviceable.schema member .highConfidence
            obtain ⟨level, levelRead⟩ := level
            simp only [planStateB, found, feasible, KbEntry.name_ok.mpr named, levelRead]
            exact ⟨_, rfl⟩
        | true =>
            have level : ∃ level, entry.level "PROBABLE" = .ok level :=
              Kb.SchemaValid.level serviceable.schema member .probable
            obtain ⟨level, levelRead⟩ := level
            have candidate := serviceable.candidate entry member feasible
            obtain ⟨module, chosen, _⟩ := truthy_iff.mp (truthy_pyOr candidate driver)
            exact ⟨_, planStateB_eq_bind found feasible chosen (plannable entry found feasible module chosen) named
              levelRead⟩

/-- The alias file of the kernel can be read, or there is no release to read it for. -/
def AliasesReadable (host : Host) (release : Str) : Prop :=
  release = [] ∨ ∃ text, host.read (Linux.modulesAliasPath release) = .ok text

omit [Interpreter] in
theorem hostAliasLines_returns_iff {rel : Str} :
    (∃ lines, hostAliasLines host rel = .ok lines) ↔ AliasesReadable host rel := by
  unfold hostAliasLines AliasesReadable
  by_cases empty : rel = []
  · simp [empty]
  · rw [if_neg empty, Linux.readAliasLines]
    cases host.read (Linux.modulesAliasPath rel) with
    | error failure => simp [empty, Except.map, Except.mapError]
    | ok text => simp [Except.map, Except.mapError]

structure Diagnosable (machine : Machine) (host : Host) (kb : Kb) (release : Option Str) (path vid pid : Str) :
    Prop where
  aliases : AliasesReadable host (kernelRelease machine release)
  driver : DriverAnswers host path
  plan : Plannable kb vid pid (driverName host path)

theorem diagnoseOne_returns_iff (serviceable : Serviceable kb) :
    (∃ result, diagnoseOne machine device host kb release none = .ok result) ↔
      Diagnosable machine host kb release device.sysfsPath device.vid device.pid := by
  constructor
  · intro ⟨⟨diagnosis, plan⟩, diagnosed⟩
    obtain ⟨aliasLines, res, driver, stages⟩ := diagnoseOne_diagnosed diagnosed
    have answers := driverOf_answers stages.bound
    have same : driverName host device.sysfsPath = driver :=
      Except.ok.inj ((driverOf_eq answers).symm.trans stages.bound)
    refine ⟨hostAliasLines_returns_iff.mp ⟨_, stages.read⟩, answers, ?_⟩
    rw [same]
    exact (planStateB_returns_iff serviceable).mp ⟨plan, stages.planned⟩
  · intro diagnosable
    obtain ⟨aliasLines, read⟩ := hostAliasLines_returns_iff.mpr diagnosable.aliases
    have resolves : ∃ res, resolveDevice device aliasLines kb = .ok res :=
      resolveDevice_returns serviceable.schema aliasLines
    obtain ⟨res, resolved⟩ := resolves
    obtain ⟨plan, planned⟩ := (planStateB_returns_iff serviceable).mpr diagnosable.plan
    unfold diagnoseOne
    simp only [read, resolved, driverOf_eq diagnosable.driver, classify_quiet, planned, bind, Except.bind]
    exact ⟨_, rfl⟩

end Stages

/-- The commands that look at the host. -/
inductive HostCommand where
  | diagnose
  | report
  | repair
  | verify
  | doctor
deriving DecidableEq

def HostCommand.text : HostCommand → Str
  | diagnose => "diagnose"
  | report => "report"
  | repair => "repair"
  | verify => "verify"
  | doctor => "doctor"

def classNames : List Str := ["bDeviceClass", "bDeviceSubClass", "bDeviceProtocol"]

def documentedCodes : List Nat := [exitOk, exitUnknown, exitRefused, exitNotFound]

theorem exitOk_documented : exitOk ∈ documentedCodes := List.mem_cons_self

theorem exitUnknown_documented : exitUnknown ∈ documentedCodes := List.mem_cons_of_mem _ List.mem_cons_self

theorem exitRefused_documented : exitRefused ∈ documentedCodes :=
  List.mem_cons_of_mem _ (List.mem_cons_of_mem _ List.mem_cons_self)

theorem exitNotFound_documented : exitNotFound ∈ documentedCodes :=
  List.mem_cons_of_mem _ (List.mem_cons_of_mem _ (List.mem_cons_of_mem _ List.mem_cons_self))

/-- The command returns, with an exit code that is documented. -/
def Returns (result : Py (Nat × Str)) : Prop :=
  ∃ code text, result = .ok (code, text) ∧ code ∈ documentedCodes

section Commands

variable [Interpreter]

/-- The class numbers of the node have no more digits than an integer may have in a text. -/
def ShortClass (host : Host) (path : Str) : Prop :=
  ∀ name ∈ classNames, ∀ number, classByte host path name = .ok number →
    (decimal number.natAbs).length ≤ Json.maxStrDigits

/-- The chosen device, if there is one, can be diagnosed. -/
def DiagnosisAnswers (machine : Machine) (host : Host) (kb : Kb) (opts : List (Str × Option Str)) : Prop :=
  Surveyable host ∧ ∀ name ∈ chosenNode host (optValue opts "--device"),
    Diagnosable machine host kb (optValue opts "--kernel-release") (nodePath name)
      (idOf host (nodePath name) "idVendor") (idOf host (nodePath name) "idProduct")

/-- A report in JSON has the class numbers of the device beside its diagnosis. -/
structure ReportAnswers (machine : Machine) (host : Host) (kb : Kb) (opts : List (Str × Option Str)) : Prop where
  diagnosis : DiagnosisAnswers machine host kb opts
  json : has opts "--json" = true →
    ∀ name ∈ chosenNode host (optValue opts "--device"), ShortClass host (nodePath name)

/-- With a chip, neither the alias file nor a driver link is looked at. -/
def ChipAnswers (host : Host) (kb : Kb) (opts : List (Str × Option Str)) (chip : Str) : Prop :=
  kb.entryByName chip = none ∨ Surveyable host ∧ ∀ name ∈ chosenNode host (optValue opts "--device"),
    Plannable kb (idOf host (nodePath name) "idVendor") (idOf host (nodePath name) "idProduct") none

def CommandAnswers (machine : Machine) (host : Host) (kb : Kb) (opts : List (Str × Option Str)) :
    HostCommand → Prop
  | .diagnose | .report => ReportAnswers machine host kb opts
  | .repair =>
      if truthy (optValue opts "--chip") then ChipAnswers host kb opts ((optValue opts "--chip").getD [])
      else DiagnosisAnswers machine host kb opts
  | .verify => Surveyable host
  | .doctor => True

variable {machine : Machine} {host : Host} {kb : Kb} {opts : List (Str × Option Str)} {chip : Str}
  {device : UsbDevice} {release spec : Option Str} {failure : PyError}

omit [Interpreter] in
theorem not_returns_error : ¬ Returns (.error failure) := by
  rintro ⟨code, text, returned, _⟩
  cases returned

omit [Interpreter] in
theorem returns_ok {code : Nat} {text : Str} (documented : code ∈ documentedCodes) :
    Returns (.ok (code, text)) := ⟨code, text, rfl, documented⟩

omit [Interpreter] in
theorem returns_bind_iff {α : Type} {first : Py α} {next : α → Py (Nat × Str)} :
    Returns (first >>= next) ↔ ∃ x, first = .ok x ∧ Returns (next x) := by
  cases first with
  | error failure => exact ⟨fun returns => absurd returns not_returns_error, by rintro ⟨_, same, _⟩; cases same⟩
  | ok x =>
      constructor
      · intro returns
        exact ⟨x, rfl, returns⟩
      · rintro ⟨_, same, returns⟩
        rw [Except.ok.inj same]
        exact returns

/-- A command that goes on with the picked device returns as its rest does for the chosen node. -/
theorem picked_returns_iff (only : RaisesHostError host) {next : Option UsbDevice → Py (Nat × Str)}
    {good : Str → Prop} (absent : Returns (next none))
    (present : ∀ name device, IsDeviceOf host usbDevicesRoot name device → ClassRead host (nodePath name) device →
      (Returns (next (some device)) ↔ good name)) :
    Returns (pickDevice (some host) spec >>= next) ↔ Surveyable host ∧ ∀ name ∈ chosenNode host spec, good name := by
  by_cases surveyable : Surveyable host
  · obtain ⟨devices, returned⟩ := (enumerateUsbDevices_returns_iff only).mpr surveyable
    rcases pickDevice_spec only returned with ⟨noNode, picked⟩ | ⟨name, device, node, picked, isDevice, read⟩
    · rw [picked, noNode]
      exact ⟨fun _ => ⟨surveyable, by simp⟩, fun _ => absent⟩
    · rw [picked, node]
      simp only [Option.mem_some_iff, forall_eq', surveyable, true_and]
      exact present name device isDevice read
  · obtain ⟨failure, raised⟩ := pickDevice_raises only surveyable
    rw [raised]
    exact ⟨fun returns => absurd returns not_returns_error, fun both => absurd both.1 surveyable⟩

theorem diagnosable_iff {name : Str} (isDevice : IsDeviceOf host usbDevicesRoot name device)
    (serviceable : Serviceable kb) :
    (∃ result, diagnoseOne machine device host kb release none = .ok result) ↔
      Diagnosable machine host kb release (nodePath name) (idOf host (nodePath name) "idVendor")
        (idOf host (nodePath name) "idProduct") := by
  obtain ⟨vid, pid⟩ := idOf_device isDevice
  have path : nodePath name = device.sysfsPath := isDevice.path.symm
  rw [vid, pid, path]
  exact diagnoseOne_returns_iff serviceable

theorem printableClass_iff {path : Str} (read : ClassRead host path device) :
    PrintableClass device ↔ ShortClass host path := by
  constructor
  · intro printable
    simp only [ShortClass, classNames, List.forall_mem_cons, List.not_mem_nil, IsEmpty.forall_iff, implies_true,
      and_true, read.dc, read.dsc, read.dp, Except.ok.injEq, forall_eq']
    exact ⟨printable.dc, printable.dsc, printable.dp⟩
  · intro short
    exact ⟨short _ (by decide) _ read.dc, short _ (by decide) _ read.dsc, short _ (by decide) _ read.dp⟩

/-- A command that diagnoses the picked device and prints what it has found. -/
theorem diagnosed_returns_iff (only : RaisesHostError host) (serviceable : Serviceable kb)
    {next : Option UsbDevice → Py (Nat × Str)} {print : Diagnosis × Plan → Py (Nat × Str)} {printable : Str → Prop}
    (absent : Returns (next none))
    (present : ∀ device, next (some device) =
      diagnoseOne machine device host kb (optValue opts "--kernel-release") none >>= print)
    (prints : ∀ name device result, ClassRead host (nodePath name) device →
      diagnoseOne machine device host kb (optValue opts "--kernel-release") none = .ok result →
      (Returns (print result) ↔ printable name)) :
    Returns (pickDevice (some host) (optValue opts "--device") >>= next) ↔
      DiagnosisAnswers machine host kb opts ∧ ∀ name ∈ chosenNode host (optValue opts "--device"), printable name := by
  rw [DiagnosisAnswers, and_assoc, ← forall₂_and]
  apply picked_returns_iff only absent
  intro name device isDevice read
  rw [present, ← diagnosable_iff isDevice serviceable, returns_bind_iff]
  constructor
  · intro ⟨result, diagnosed, printed⟩
    exact ⟨⟨result, diagnosed⟩, (prints name device result read diagnosed).mp printed⟩
  · intro ⟨⟨result, diagnosed⟩, good⟩
    exact ⟨result, diagnosed, (prints name device result read diagnosed).mpr good⟩

theorem cmdDiagnose_returns_iff (only : RaisesHostError host) (serviceable : Serviceable kb) :
    Returns (cmdDiagnose machine opts (some host) kb) ↔ ReportAnswers machine host kb opts := by
  have stages : Returns (cmdDiagnose machine opts (some host) kb) ↔ DiagnosisAnswers machine host kb opts ∧
      ∀ name ∈ chosenNode host (optValue opts "--device"),
        has opts "--json" = true → ShortClass host (nodePath name) := by
    unfold cmdDiagnose
    apply diagnosed_returns_iff only serviceable
    · exact returns_ok exitUnknown_documented
    · exact fun _ => rfl
    · intro name device ⟨diagnosis, plan⟩ read diagnosed
      cases json : has opts "--json" with
      | true =>
          rw [← printableClass_iff read, ← diagnosisJson_returns_iff diagnosed]
          refine Iff.trans ?_ (forall_prop_of_true rfl).symm
          refine returns_bind_iff.trans (exists_congr fun text => ?_)
          exact and_iff_left (returns_ok exitOk_documented)
      | false => exact ⟨fun _ given => (Bool.false_ne_true given).elim, fun _ => returns_ok exitOk_documented⟩
  rw [stages]
  constructor
  · intro ⟨diagnosis, short⟩
    exact ⟨diagnosis, fun json name node => short name node json⟩
  · intro answers
    exact ⟨answers.diagnosis, fun name node json => answers.json json name node⟩

omit [Interpreter] in
theorem answerRepair_documented (out : List Str) :
    (answerRepair opts out).1 ∈ documentedCodes := by
  rw [answerRepair]
  split
  · exact exitRefused_documented
  · exact exitOk_documented

omit [Interpreter] in
theorem namedEntry_eq (schema : kb.SchemaValid) : namedEntry chip kb.chipsets = .ok (kb.entryByName chip) := by
  rw [Kb.entryByName]
  have named : ∀ entry ∈ kb.chipsets, ∃ chipset, entry.chipset = some chipset := fun entry member =>
    (schema entry member).1
  generalize kb.chipsets = entries at named
  induction entries with
  | nil => rfl
  | cons entry entries ih =>
      obtain ⟨chipset, same⟩ := named entry List.mem_cons_self
      have step : namedEntry chip (entry :: entries) =
          if chipset = chip then .ok (some entry) else namedEntry chip entries := by
        rw [namedEntry, KbEntry.name_ok.mpr same]
        rfl
      rw [step]
      by_cases asked : chipset = chip
      · rw [if_pos asked, List.find?_cons_of_pos (by simp [same, asked])]
      · rw [if_neg asked, List.find?_cons_of_neg (by simp [same, asked])]
        exact ih fun later member => named later (List.mem_cons_of_mem _ member)

theorem chipLines_returns_iff (serviceable : Serviceable kb) {entry : KbEntry} :
    (∃ out, chipLines device kb chip entry = .ok out) ↔ Plannable kb device.vid device.pid none := by
  rw [← planStateB_returns_iff serviceable, chipLines]
  cases planStateB device kb none none with
  | error failure => simp [bind, Except.bind]
  | ok plan =>
      simp only [bind, Except.bind]
      split
      · exact ⟨fun _ => ⟨plan, rfl⟩, fun _ => ⟨_, rfl⟩⟩
      · exact ⟨fun _ => ⟨plan, rfl⟩, fun _ => ⟨_, rfl⟩⟩

theorem cmdRepair_device_returns_iff (only : RaisesHostError host) (serviceable : Serviceable kb)
    (unnamed : truthy (optValue opts "--chip") = false) :
    Returns (cmdRepair machine opts (some host) kb) ↔ DiagnosisAnswers machine host kb opts := by
  have stages : Returns (cmdRepair machine opts (some host) kb) ↔ DiagnosisAnswers machine host kb opts ∧
      ∀ name ∈ chosenNode host (optValue opts "--device"), True := by
    unfold cmdRepair
    simp only [unnamed, Bool.false_eq_true, if_false]
    apply diagnosed_returns_iff only serviceable
    · exact returns_ok exitUnknown_documented
    · exact fun _ => rfl
    · exact fun _ _ _ _ _ => iff_true_intro (returns_ok (answerRepair_documented _))
  rw [stages]
  exact and_iff_left fun _ _ => trivial

theorem cmdRepair_chip_returns_iff (only : RaisesHostError host) (serviceable : Serviceable kb)
    (named : truthy (optValue opts "--chip") = true) :
    Returns (cmdRepair machine opts (some host) kb) ↔
      ChipAnswers host kb opts ((optValue opts "--chip").getD []) := by
  unfold cmdRepair ChipAnswers
  simp only [named, if_true, namedEntry_eq serviceable.schema]
  cases found : kb.entryByName ((optValue opts "--chip").getD []) with
  | none => exact ⟨fun _ => .inl rfl, fun _ => returns_ok exitNotFound_documented⟩
  | some entry =>
      rw [or_iff_right (by simp)]
      apply picked_returns_iff only
      · exact returns_ok exitUnknown_documented
      · intro name device isDevice _
        obtain ⟨vid, pid⟩ := idOf_device isDevice
        have lines : (∃ out, chipLines device kb ((optValue opts "--chip").getD []) entry = .ok out) ↔
            Plannable kb device.vid device.pid none := chipLines_returns_iff serviceable
        rw [vid, pid, ← lines]
        refine returns_bind_iff.trans (exists_congr fun out => ?_)
        exact and_iff_left (returns_ok (answerRepair_documented _))

theorem cmdVerify_returns_iff (only : RaisesHostError host) :
    Returns (cmdVerify opts (some host)) ↔ Surveyable host := by
  have picked : Returns (cmdVerify opts (some host)) ↔
      Surveyable host ∧ ∀ name ∈ chosenNode host (optValue opts "--device"), True := by
    unfold cmdVerify
    apply picked_returns_iff only
    · exact returns_ok exitUnknown_documented
    · intro name device _ _
      rw [iff_true]
      exact returns_bind_iff.mpr ⟨_, rfl, returns_ok exitOk_documented⟩
  rw [picked]
  exact and_iff_left fun _ _ => trivial

variable {runtime : Runtime} {loads : Loads} {journals : Journals} {journalPath : Option Str} {argv rest : List Str}
  {command : HostCommand}

def HostCommand.answer (runtime : Runtime) (host : Option Host) (kb : Kb) (opts : List (Str × Option Str)) :
    HostCommand → Py (Nat × Str)
  | diagnose | report => cmdDiagnose runtime.toMachine opts host kb
  | repair => cmdRepair runtime.toMachine opts host kb
  | verify => cmdVerify opts host
  | doctor => .ok (cmdDoctor runtime host kb)

theorem run_eq_answer {host : Option Host} (dispatched : (parse argv).positional = command.text :: rest) :
    run runtime loads journals host (some kb) journalPath argv =
      command.answer runtime host kb (parse argv).opts := by
  unfold run
  simp only [dispatched]
  cases command with
  | diagnose => exact if_pos rfl
  | report => rfl
  | repair => rfl
  | verify => rfl
  | doctor => rfl

/-- On a host that fails in the defined way only, and with a knowledge base that has what it
must, a command over the host returns exactly when the stages it runs are answered. -/
theorem run_returns_iff (only : RaisesHostError host) (serviceable : Serviceable kb)
    (dispatched : (parse argv).positional = command.text :: rest) :
    Returns (run runtime loads journals (some host) (some kb) journalPath argv) ↔
      CommandAnswers runtime.toMachine host kb (parse argv).opts command := by
  rw [run_eq_answer dispatched]
  cases command with
  | diagnose => exact cmdDiagnose_returns_iff only serviceable
  | report => exact cmdDiagnose_returns_iff only serviceable
  | repair =>
      unfold CommandAnswers
      cases named : truthy (optValue (parse argv).opts "--chip") with
      | true =>
          rw [if_pos rfl]
          exact cmdRepair_chip_returns_iff only serviceable named
      | false =>
          rw [if_neg Bool.false_ne_true]
          exact cmdRepair_device_returns_iff only serviceable named
  | verify => exact cmdVerify_returns_iff only
  | doctor => exact ⟨fun _ => trivial, fun _ => returns_ok exitOk_documented⟩

end Commands

def bareRuntime : Runtime := { bareMachine with isDigit := isDecimalDigit }

/-- The golden device, with the alias file of the kernel where it is given. -/
def dongleHost (aliases : List (Str × Str)) : Host :=
  { tableHost (("/sys/bus/usb/devices/1-2/idVendor", "0bda\n") :: ("/sys/bus/usb/devices/1-2/idProduct", "8811\n") ::
      ("/sys/bus/usb/devices/1-2/bcdDevice", "0200\n") :: aliases) [] [] with
    listdir := fun _ => .ok ["1-2"] }

def goldenAliases : List (Str × Str) :=
  [("/lib/modules/6.8.0/modules.alias", "alias usb:v0BDAp8811d*dc*dsc*dp*ic*isc*ip*in* rtw_8821cu\n")]

theorem raisesHostError_dongleHost (aliases : List (Str × Str)) : RaisesHostError (dongleHost aliases) :=
  raisesHostError_tableHost _ _ _ _

theorem serviceable_goldenKb : Serviceable goldenKb where
  schema := by
    refine List.forall_mem_singleton.mpr ⟨⟨_, rfl⟩, fun text stated => ⟨.highConfidence, ?_⟩⟩
    exact (Option.some.inj stated).symm
  candidate := by
    refine List.forall_mem_singleton.mpr fun _ => ?_
    rfl

theorem run_returns_diagnose :
    Returns (@run asciiInterpreter bareRuntime readLoads (fun _ => .decoded none) (some (dongleHost goldenAliases))
      (some goldenKb) none ["diagnose", "--json"]) := by
  let _ : Interpreter := asciiInterpreter
  have dispatched : (parse ["diagnose", "--json"]).positional = HostCommand.text .diagnose :: [] := rfl
  have node : chosenNode (dongleHost goldenAliases) (optValue (parse ["diagnose", "--json"]).opts "--device") =
      some ("1-2" : Str) := rfl
  refine (run_returns_iff (raisesHostError_dongleHost goldenAliases) serviceable_goldenKb dispatched).mpr
    ⟨⟨?_, ?_⟩, fun _ => ?_⟩
  · refine List.forall_mem_singleton.mpr fun _ => ⟨⟨0, rfl⟩, ⟨0, rfl⟩, ⟨0, rfl⟩⟩
  · rw [node]
    intro name chosen
    cases chosen
    refine ⟨.inr ⟨_, rfl⟩, ⟨fun _ _ => ⟨_, rfl⟩, fun _ _ _ => ⟨_, rfl⟩⟩, ?_⟩
    intro entry found _ module listed
    cases found
    cases listed
    decide
  · rw [node]
    intro name chosen attr member number read
    cases chosen
    have zero : number = 0 := by
      simp only [classNames, List.mem_cons, List.not_mem_nil, or_false] at member
      rcases member with rfl | rfl | rfl
      · exact (Except.ok.inj read).symm
      · exact (Except.ok.inj read).symm
      · exact (Except.ok.inj read).symm
    rw [zero]
    decide

/-- Without its alias file, the kernel of a plugged dongle makes the diagnosis an exception. -/
theorem diagnose_raises_without_aliases :
    RaisesHostError (dongleHost []) ∧ Serviceable goldenKb ∧
      @run asciiInterpreter bareRuntime readLoads (fun _ => .decoded none) (some (dongleHost [])) (some goldenKb) none
          ["diagnose"] =
        .error (.host (.hostError "read /lib/modules/6.8.0/modules.alias: No such file")) := by
  refine ⟨raisesHostError_dongleHost [], serviceable_goldenKb, rfl⟩

end DongleRescue.Cli
