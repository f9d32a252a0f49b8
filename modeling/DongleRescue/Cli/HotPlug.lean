import DongleRescue.Cli.ListingOrder
import DongleRescue.Data.Searches
import DongleRescue.Usb.Snapshot

namespace DongleRescue.Cli

open DongleRescue.Data DongleRescue.Identification DongleRescue.Diagnostics DongleRescue.Repair DongleRescue.Usb

/-! Devices that come and go on the bus, and the diagnosis of one that stays. -/

/-- The node that a name on the bus belongs to; interfaces are named after it. -/
def nodeOf (name : Str) : Str := name.takeWhile fun c => c != ':' && c != '/'

/-- The path leads into one of the nodes. -/
def leadsInto (nodes : List Str) (path : Str) : Bool :=
  startsWith path (nodePath []) && nodes.contains (nodeOf (path.drop (nodePath []).length))

/-- The answers of a host before and after some nodes come or go: outside of them nothing changes,
and no driver of another node does. -/
structure HotPlugged (nodes : List Str) (host other : Host) : Prop where
  names : ∃ before after, host.listdir usbDevicesRoot = .ok before ∧ other.listdir usbDevicesRoot = .ok after ∧
    (before.filter fun name => !nodes.contains (nodeOf name)).Perm
      (after.filter fun name => !nodes.contains (nodeOf name))
  read : ∀ path, leadsInto nodes path = false → other.read path = host.read path
  link : ∀ path, leadsInto nodes path = false → other.resolveRealpath path = host.resolveRealpath path
  target : ∀ path target, leadsInto nodes path = false → host.resolveRealpath path = .ok target →
    other.exists target = host.exists target

def asksForDevice (spec : Option Str) (device : UsbDevice) : Bool :=
  !truthy spec || decide (device.vidPid = lower (spec.getD []))

section Paths

variable {nodes : List Str} {name rest : Str}

/-- What follows the name of a node or of an interface. -/
def Follows (rest : Str) : Prop := ∃ tail, rest = ':' :: tail ∨ rest = '/' :: tail

theorem nodeOf_append (follows : Follows rest) : nodeOf (name ++ rest) = nodeOf name := by
  induction name with
  | nil =>
      obtain ⟨tail, rfl | rfl⟩ := follows
      · rfl
      · rfl
  | cons c name ih =>
      rw [nodeOf, List.cons_append, List.takeWhile_cons, nodeOf, List.takeWhile_cons]
      split
      · exact congrArg (c :: ·) ih
      · rfl

theorem leadsInto_nodePath (follows : Follows rest) :
    leadsInto nodes (nodePath name ++ rest) = nodes.contains (nodeOf name) := by
  have split : nodePath name ++ rest = nodePath [] ++ (name ++ rest) := by
    simp [nodePath]
  rw [leadsInto, split, startsWith_append, List.drop_left, nodeOf_append follows, Bool.true_and]

/-- Alias files are not on the bus. -/
theorem leadsInto_modulesAliasPath (release : Str) : leadsInto nodes (Linux.modulesAliasPath release) = false := rfl

end Paths

section Picking

variable [Interpreter] {nodes : List Str} {host other : Host} {name : Str} {spec : Option Str} {device : UsbDevice}

theorem pickDevice_eq_searchAll {names : List Str} (listed : host.listdir usbDevicesRoot = .ok names) :
    pickDevice (some host) spec =
      searchAll (enumerateNode host usbDevicesRoot) (asksForDevice spec) (sortTexts names) := by
  rw [searchAll_eq_mapM, pickDevice, enumerateUsbDevices, listed]
  simp only
  cases (sortTexts names).mapM (enumerateNode host usbDevicesRoot) with
  | error failure => rfl
  | ok found =>
      refine congrArg Except.ok ?_
      cases asked : truthy spec with
      | true =>
          have accepts : asksForDevice spec = fun device => decide (device.vidPid = lower (spec.getD [])) := by
            funext device
            rw [asksForDevice, asked]
            rfl
          rw [if_pos rfl, accepts]
          exact List.head?_filter
      | false =>
          have accepts : asksForDevice spec = fun _ => true := by
            funext device
            rw [asksForDevice, asked]
            rfl
          rw [if_neg Bool.false_ne_true, accepts]
          change _ = (found.filterMap id).find? fun _ => true
          cases found.filterMap id with
          | nil => rfl
          | cons first others => rfl

/-- The nodes that come or go are read without an exception, and none of them is asked for before
a node that stays. -/
def NotFirst (nodes : List Str) (spec : Option Str) (host : Host) : Prop :=
  ∀ names, host.listdir usbDevicesRoot = .ok names → ∀ name ∈ names, nodes.contains (nodeOf name) = true →
    ∃ found, enumerateNode host usbDevicesRoot name = .ok found ∧ ∀ device ∈ found, asksForDevice spec device = true →
      ∃ kept ∈ names, kept < name ∧ nodes.contains (nodeOf kept) = false ∧
        ∃ other, enumerateNode host usbDevicesRoot kept = .ok (some other) ∧ asksForDevice spec other = true

theorem pickDevice_staying (notFirst : NotFirst nodes spec host) {names : List Str}
    (listed : host.listdir usbDevicesRoot = .ok names) :
    pickDevice (some host) spec = searchAll (enumerateNode host usbDevicesRoot) (asksForDevice spec)
      ((sortTexts names).filter fun name => !nodes.contains (nodeOf name)) := by
  rw [pickDevice_eq_searchAll listed]
  refine searchAll_sortTexts_filter ?_ ?_
  · intro name member plugged
    obtain ⟨found, read, _⟩ := notFirst names listed name member (by simpa using plugged)
    exact ⟨found, read⟩
  · intro name member plugged hit
    obtain ⟨device, hit⟩ := Option.isSome_iff_exists.mp hit
    obtain ⟨probed, asked⟩ := finding_eq_some_iff.mp hit
    obtain ⟨found, read, before⟩ := notFirst names listed name member (by simpa using plugged)
    cases probed.symm.trans read
    obtain ⟨kept, inNames, below, stays, other, readKept, askedKept⟩ := before device rfl asked
    refine ⟨kept, inNames, by simpa using stays, ?_, below⟩
    exact Option.isSome_iff_exists.mpr ⟨other, finding_eq_some_iff.mpr ⟨readKept, askedKept⟩⟩

theorem picked_stays (notFirst : NotFirst nodes spec host) {names : List Str}
    (listed : host.listdir usbDevicesRoot = .ok names) (picked : pickDevice (some host) spec = .ok (some device)) :
    ∃ name, device.sysfsPath = nodePath name ∧ nodes.contains (nodeOf name) = false := by
  rw [pickDevice_staying notFirst listed] at picked
  obtain ⟨name, member, found, _⟩ := exists_of_searchAll picked
  exact ⟨name, (enumerateNode_recorded found).path, by simpa using (List.mem_filter.mp member).2⟩

end Picking

section Device

variable [Interpreter] {runtime : Runtime} {loads : Loads} {journals : Journals} {host other : Host} {optKb : Option Kb}
  {journalPath : Option Str} {argv : List Str}

/-- Two hosts that show the asked device alike get the same answers about it. -/
theorem run_of_same_device (pick : pickDevice (some other) (optValue (parse argv).opts "--device") =
      pickDevice (some host) (optValue (parse argv).opts "--device"))
    (diagnosis : ∀ device, pickDevice (some host) (optValue (parse argv).opts "--device") = .ok (some device) →
      diagnoseOne runtime.toMachine device other (optKb.getD runtime.chipsetKb)
          (optValue (parse argv).opts "--kernel-release") none =
        diagnoseOne runtime.toMachine device host (optKb.getD runtime.chipsetKb)
          (optValue (parse argv).opts "--kernel-release") none)
    (command : ∀ cmd ∈ (parse argv).positional.head?, cmd ≠ "verify" ∧ cmd ≠ "doctor") :
    run runtime loads journals (some other) optKb journalPath argv =
      run runtime loads journals (some host) optKb journalPath argv := by
  have diagnose : cmdDiagnose runtime.toMachine (parse argv).opts (some other) (optKb.getD runtime.chipsetKb) =
      cmdDiagnose runtime.toMachine (parse argv).opts (some host) (optKb.getD runtime.chipsetKb) := by
    rw [cmdDiagnose, cmdDiagnose, pick]
    cases picked : pickDevice (some host) (optValue (parse argv).opts "--device") with
    | error failure => rfl
    | ok found =>
        cases found with
        | none => rfl
        | some device =>
            change (diagnoseOne runtime.toMachine device other _ _ none >>= _) =
              (diagnoseOne runtime.toMachine device host _ _ none >>= _)
            rw [diagnosis device picked]
  have repair : cmdRepair runtime.toMachine (parse argv).opts (some other) (optKb.getD runtime.chipsetKb) =
      cmdRepair runtime.toMachine (parse argv).opts (some host) (optKb.getD runtime.chipsetKb) := by
    rw [cmdRepair, cmdRepair, pick]
    split
    · rfl
    · cases picked : pickDevice (some host) (optValue (parse argv).opts "--device") with
      | error failure => rfl
      | ok found =>
          cases found with
          | none => rfl
          | some device =>
              change (diagnoseOne runtime.toMachine device other _ _ none >>= _) =
                (diagnoseOne runtime.toMachine device host _ _ none >>= _)
              rw [diagnosis device picked]
  rw [run, run]
  simp only [diagnose, repair]
  split
  · rfl
  · rename_i cmd rest positional
    rw [positional] at command
    obtain ⟨notVerify, notDoctor⟩ := command cmd rfl
    simp only [if_neg notVerify, if_neg notDoctor]

end Device

section Staying

variable {nodes : List Str} {host other : Host} (plugged : HotPlugged nodes host other)
include plugged

theorem readAttr_hotPlugged {name attr : Str} (stays : nodes.contains (nodeOf name) = false) :
    readAttr other (nodePath name) attr = readAttr host (nodePath name) attr := by
  have outside : leadsInto nodes (nodePath name ++ '/' :: attr) = false := by
    rw [leadsInto_nodePath ⟨attr, .inr rfl⟩, stays]
  rw [readAttr, readAttr, plugged.read _ outside]

theorem boundDriver_hotPlugged {path : Str} (outside : leadsInto nodes (path ++ "/driver") = false) :
    boundDriver other path = boundDriver host path := by
  rw [boundDriver, boundDriver, plugged.link _ outside]
  split
  · rfl
  · rename_i target resolved
    rw [plugged.target _ _ outside resolved]

theorem driverOf_hotPlugged {device : UsbDevice} {name : Str} (path : device.sysfsPath = nodePath name)
    (stays : nodes.contains (nodeOf name) = false) : driverOf other device = driverOf host device := by
  have interface : leadsInto nodes (firstInterface device ++ "/driver") = false := by
    rw [firstInterface, path, List.append_assoc]
    exact (leadsInto_nodePath ⟨_, .inl rfl⟩).trans stays
  have node : leadsInto nodes (device.sysfsPath ++ "/driver") = false := by
    rw [path]
    exact (leadsInto_nodePath ⟨_, .inr rfl⟩).trans stays
  rw [driverOf, driverOf, boundDriver_hotPlugged plugged interface, boundDriver_hotPlugged plugged node]

variable [Interpreter]

theorem enumerateNode_hotPlugged {name : Str} (stays : nodes.contains (nodeOf name) = false) :
    enumerateNode other usbDevicesRoot name = enumerateNode host usbDevicesRoot name := by
  have same : ∀ attr, readAttr other (usbDevicesRoot ++ '/' :: name) attr =
      readAttr host (usbDevicesRoot ++ '/' :: name) attr := fun _ => readAttr_hotPlugged plugged stays
  unfold enumerateNode completeDevice classByte
  simp only [same]

/-- The same device is picked, and it is one of a node that stays. -/
theorem pickDevice_hotPlugged {spec : Option Str} (before : NotFirst nodes spec host)
    (after : NotFirst nodes spec other) :
    pickDevice (some other) spec = pickDevice (some host) spec := by
  obtain ⟨names, names', listed, listed', perm⟩ := plugged.names
  have sorted : (sortTexts names').filter (fun name => !nodes.contains (nodeOf name)) =
      (sortTexts names).filter fun name => !nodes.contains (nodeOf name) := by
    have whole := ((sortTexts_perm names').filter fun name => !nodes.contains (nodeOf name)).trans
      (perm.symm.trans ((sortTexts_perm names).filter fun name => !nodes.contains (nodeOf name)).symm)
    exact whole.eq_of_pairwise (fun _ _ _ _ => le_antisymm) ((sortTexts_pairwise names').filter _)
      ((sortTexts_pairwise names).filter _)
  rw [pickDevice_staying before listed, pickDevice_staying after listed', sorted]
  refine searchAll_congr fun name member => enumerateNode_hotPlugged plugged ?_
  simpa using (List.mem_filter.mp member).2

theorem diagnoseOne_hotPlugged {machine : Machine} {device : UsbDevice} {kb : Kb} {release chip : Option Str} {name : Str}
    (path : device.sysfsPath = nodePath name) (stays : nodes.contains (nodeOf name) = false) :
    diagnoseOne machine device other kb release chip = diagnoseOne machine device host kb release chip := by
  have aliases : hostAliasLines other (kernelRelease machine release) =
      hostAliasLines host (kernelRelease machine release) := by
    rw [hostAliasLines, hostAliasLines, Linux.readAliasLines, Linux.readAliasLines,
      plugged.read _ (leadsInto_modulesAliasPath _)]
  rw [diagnoseOne, diagnoseOne, aliases, driverOf_hotPlugged plugged path stays]

/-- Whatever comes or goes on the bus, the answers about the first device that is asked for stay
the same, to the last line of its repair plan. -/
theorem run_hotPlugged (runtime : Runtime) (loads : Loads) (journals : Journals) (kb : Option Kb)
    (journalPath : Option Str) {argv : List Str}
    (before : NotFirst nodes (optValue (parse argv).opts "--device") host)
    (after : NotFirst nodes (optValue (parse argv).opts "--device") other)
    (command : ∀ cmd ∈ (parse argv).positional.head?, cmd ≠ "verify" ∧ cmd ≠ "doctor") :
    run runtime loads journals (some other) kb journalPath argv =
      run runtime loads journals (some host) kb journalPath argv := by
  obtain ⟨_, _, listed, _⟩ := plugged.names
  refine run_of_same_device (pickDevice_hotPlugged plugged before after) (fun device picked => ?_) command
  obtain ⟨name, path, stays⟩ := picked_stays before listed picked
  exact diagnoseOne_hotPlugged plugged path stays

end Staying

def keyboardFiles : List (Str × Str) :=
  [("/sys/bus/usb/devices/1-1/idVendor", "046d\n"), ("/sys/bus/usb/devices/1-1/idProduct", "c31c\n"),
    ("/sys/bus/usb/devices/1-1/bcdDevice", "6402\n"), ("/sys/bus/usb/devices/1-1/bDeviceClass", "00\n")]

def dongleFiles : List (Str × Str) :=
  ("/sys/bus/usb/devices/1-2/idVendor", "0bda\n") :: ("/sys/bus/usb/devices/1-2/idProduct", "8811\n") ::
    ("/sys/bus/usb/devices/1-2/bcdDevice", "0200\n") :: goldenAliases

/-- The host of the dongle with a keyboard plugged in, which is listed before it. -/
def keyboardHost : Host :=
  { tableHost (dongleFiles ++ keyboardFiles) [] [] with
    listdir := fun _ => .ok ["1-1", "1-1:1.0", "1-2"] }

theorem hotPlugged_keyboard : HotPlugged ["1-1"] (dongleHost goldenAliases) keyboardHost := by
  have absent : ∀ path, leadsInto ["1-1"] path = false → ∀ file ∈ keyboardFiles, file.1 ≠ path := by
    intro path outside file member same
    have inside : ∀ file ∈ keyboardFiles, leadsInto ["1-1"] file.1 = true := by decide
    rw [← same, inside file member] at outside
    cases outside
  refine ⟨⟨_, _, rfl, rfl, by decide⟩, fun path outside => ?_, fun path _ => rfl, fun path target outside resolved => ?_⟩
  · exact (@tableHost_append dongleFiles _ [] [] path (absent path outside)).1
  · cases resolved
    exact (@tableHost_append dongleFiles _ [] [] path (absent path outside)).2

theorem run_hotPlugged_keyboard :
    let _ : Interpreter := asciiInterpreter
    run bareRuntime readLoads (fun _ => .decoded none) (some keyboardHost) (some goldenKb) none
        ["repair", "--device=0bda:8811"] =
      run bareRuntime readLoads (fun _ => .decoded none) (some (dongleHost goldenAliases)) (some goldenKb) none
        ["repair", "--device=0bda:8811"] := by
  intro _
  refine run_hotPlugged hotPlugged_keyboard _ _ _ _ _ ?_ ?_ (by decide)
  · intro names listed name member plugged
    cases listed
    cases List.mem_singleton.mp member
    cases plugged
  · intro names listed name member plugged
    cases listed
    simp only [List.mem_cons, List.not_mem_nil, or_false] at member
    rcases member with rfl | rfl | rfl
    · refine ⟨_, rfl, fun device same asked => ?_⟩
      cases same
      cases asked
    · exact ⟨none, rfl, fun device same => by cases same⟩
    · cases plugged

end DongleRescue.Cli
