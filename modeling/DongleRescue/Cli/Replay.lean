import DongleRescue.Cli.HotPlug

namespace DongleRescue.Cli

open DongleRescue.Data DongleRescue.Identification DongleRescue.Diagnostics DongleRescue.Repair DongleRescue.Usb

/-! A record of what a diagnosis saw of a host, and the host played from it. -/

structure Capture where
  devices : List UsbDevice
  aliasFiles : List (Str × Str)
  /-- The nodes with a driver, and its name. -/
  drivers : List (Str × Str)

def driverDirectory (driver : Str) : Str := "/sys/bus/usb/drivers" ++ '/' :: driver

def Capture.links (record : Capture) : List (Str × Str) :=
  record.drivers.map fun bound => (bound.1 ++ "/driver", driverDirectory bound.2)

/-- The host that has what was recorded and nothing else. -/
def Capture.host (record : Capture) : Host :=
  { tableHost (record.devices.flatMap attributeFiles ++ record.aliasFiles) record.links (record.links.map Prod.snd) with
    listdir := fun _ => .ok (record.devices.map nodeName) }

/-- The nodes of a device that are asked for a driver. -/
def driverNodes (device : UsbDevice) : List Str := [firstInterface device, device.sysfsPath]

def boundAt (host : Host) (node : Str) : Option (Str × Str) :=
  match boundDriver host node with
  | .ok (some driver) => some (node, driver)
  | _ => none

def capture (host : Host) (release : Str) (devices : List UsbDevice) : Capture where
  devices
  aliasFiles := match host.read (Linux.modulesAliasPath release) with
    | .ok text => [(Linux.modulesAliasPath release, text)]
    | .error _ => []
  drivers := (devices.flatMap driverNodes).filterMap (boundAt host)

section Capture

variable {host : Host} {release path : Str} {devices : List UsbDevice} {device : UsbDevice}

/-- Nothing of the bus is below `/lib`. -/
theorem modulesAliasPath_ne {rest : Str} : Linux.modulesAliasPath release ≠ usbDevicesRoot ++ rest := by
  intro same
  have first := congrArg (List.take 2) same
  change (['/', 'l'] : Str) = ['/', 's'] at first
  cases first

theorem aliasFiles_only {file : Str × Str} (member : file ∈ (capture host release devices).aliasFiles) :
    file.1 = Linux.modulesAliasPath release := by
  unfold capture at member
  simp only at member
  split at member
  · rw [List.mem_singleton.mp member]
  · cases member

theorem read_capture {rest : Str} : (capture host release devices).host.read (usbDevicesRoot ++ rest) =
    (snapshot devices).read (usbDevicesRoot ++ rest) := by
  have elsewhere : ∀ file ∈ (capture host release devices).aliasFiles, file.1 ≠ usbDevicesRoot ++ rest :=
    fun file member same => modulesAliasPath_ne ((aliasFiles_only member).symm.trans same)
  exact (@tableHost_append _ _ [] [] _ elsewhere).1

theorem mem_links {link : Str × Str} (member : link ∈ (capture host release devices).links) :
    ∃ node driver, boundDriver host node = .ok (some driver) ∧ link.1 = node ++ "/driver" ∧
      link.2 = driverDirectory driver := by
  obtain ⟨⟨node, driver⟩, listed, rfl⟩ := List.mem_map.mp member
  obtain ⟨other, _, found⟩ := List.mem_filterMap.mp listed
  unfold boundAt at found
  split at found
  · rename_i name bound
    cases found
    exact ⟨node, driver, bound, rfl, rfl⟩
  · cases found

theorem links_mem {node driver : Str} (member : node ∈ devices.flatMap driverNodes)
    (bound : boundDriver host node = .ok (some driver)) :
    (node ++ "/driver", driverDirectory driver) ∈ (capture host release devices).links := by
  refine List.mem_map.mpr ⟨(node, driver), List.mem_filterMap.mpr ⟨node, member, ?_⟩, rfl⟩
  rw [boundAt, bound]

theorem plain_of_boundDriver {driver : Str} (bound : boundDriver host path = .ok (some driver)) : '/' ∉ driver := by
  obtain ⟨target, _, rfl⟩ := boundDriver_eq_some_iff.mp bound
  intro member
  have kept := List.mem_rtakeWhile_imp member
  simp at kept

theorem boundDriver_capture_some {node driver : Str} (member : node ∈ devices.flatMap driverNodes)
    (bound : boundDriver host node = .ok (some driver)) :
    boundDriver (capture host release devices).host node = .ok (some driver) := by
  have listed : (node ++ "/driver", driverDirectory driver) ∈ (capture host release devices).links :=
    links_mem member bound
  have link := find?_of_unique listed fun other member same => by
    obtain ⟨node', driver', bound', key, target⟩ := mem_links member
    cases List.append_cancel_right (key.symm.trans same)
    cases bound.symm.trans bound'
    exact target
  rw [boundDriver_eq_some_iff]
  refine ⟨driverDirectory driver, ⟨?_, ?_⟩, basename_join (plain_of_boundDriver bound)⟩
  · simp only [Capture.host, tableHost, link]
    rfl
  · have inDirectories : ((capture host release devices).links.map Prod.snd).contains (driverDirectory driver) = true := by
      rw [List.contains_iff_mem]
      exact List.mem_map_of_mem listed
    simp only [Capture.host, tableHost, inDirectories, Bool.true_or]

/-- A node of a device is below the bus, and none of its attributes is called `driver`. -/
theorem boundDriver_capture_none {node : Str} (inventory : Inventory devices)
    (member : node ∈ devices.flatMap driverNodes) (unbound : boundDriver host node = .ok none) :
    boundDriver (capture host release devices).host node = .ok none := by
  have unlinked : ∀ link ∈ (capture host release devices).links, link.1 ≠ node ++ "/driver" := by
    intro link listed same
    obtain ⟨node', driver, bound, key, _⟩ := mem_links listed
    cases List.append_cancel_right (key.symm.trans same)
    cases unbound.symm.trans bound
  obtain ⟨rest, below⟩ : ∃ rest, node = usbDevicesRoot ++ '/' :: rest := by
    obtain ⟨device, inDevices, asked⟩ := List.mem_flatMap.mp member
    obtain ⟨name, recorded⟩ := inventory.recorded device inDevices
    rcases List.mem_cons.mp asked with rfl | asked
    · exact ⟨name ++ ":1.0", by rw [firstInterface, recorded.path, List.append_assoc]; rfl⟩
    · exact ⟨name, (List.mem_singleton.mp asked).trans recorded.path⟩
  have noDirectory : node ++ "/driver" ∉ (capture host release devices).links.map Prod.snd := by
    intro listed
    obtain ⟨link, inLinks, same⟩ := List.mem_map.mp listed
    obtain ⟨_, driver, _, _, target⟩ := mem_links inLinks
    have first := congrArg (List.take 16) (target.symm.trans same)
    rw [below] at first
    change ("/sys/bus/usb/dri" : Str) = "/sys/bus/usb/dev" at first
    exact absurd first (by decide)
  have noFile : ∀ file ∈ devices.flatMap attributeFiles ++ (capture host release devices).aliasFiles,
      file.1 ≠ node ++ "/driver" := by
    intro file listed same
    rcases List.mem_append.mp listed with own | kernel
    · obtain ⟨device, _, field, inFields, _, _, key, _⟩ := mem_files_iff.mp own
      obtain ⟨_, attr⟩ := path_inj (attributes_plain field inFields).1 (by decide : '/' ∉ ("driver" : Str)) (key.trans same)
      exact (attributes_plain field inFields).2 attr
    · rw [aliasFiles_only kernel, below, List.append_assoc] at same
      exact modulesAliasPath_ne same
  have resolved : (capture host release devices).host.resolveRealpath (node ++ "/driver") = .ok (node ++ "/driver") :=
    @tableHost_resolveRealpath [] _ [] _ unlinked
  have missing : (capture host release devices).host.exists (node ++ "/driver") = .ok false :=
    @tableHost_missing _ [] _ _ noDirectory noFile
  rw [boundDriver, resolved]
  simp only [missing]

theorem boundDriver_capture {node : Str} {driver : Option Str} (inventory : Inventory devices)
    (member : node ∈ devices.flatMap driverNodes) (bound : boundDriver host node = .ok driver) :
    boundDriver (capture host release devices).host node = .ok driver := by
  cases driver with
  | none => exact boundDriver_capture_none inventory member bound
  | some name => exact boundDriver_capture_some member bound

theorem driverOf_capture {driver : Option Str} (inventory : Inventory devices) (member : device ∈ devices)
    (bound : driverOf host device = .ok driver) : driverOf (capture host release devices).host device = .ok driver := by
  have nodes : ∀ node ∈ driverNodes device, node ∈ devices.flatMap driverNodes := fun node asked =>
    List.mem_flatMap.mpr ⟨device, member, asked⟩
  obtain ⟨first, interface, bound⟩ := bind_ok bound
  have interface' : boundDriver (capture host release devices).host (firstInterface device) = .ok first :=
    boundDriver_capture inventory (nodes _ (by simp [driverNodes])) interface
  rw [driverOf, interface']
  by_cases found : truthy first = true
  · rw [if_pos found] at bound
    exact (if_pos found).trans bound
  · rw [if_neg found] at bound
    refine (if_neg found).trans ?_
    exact boundDriver_capture inventory (nodes _ (by simp [driverNodes])) bound

theorem hostAliasLines_capture {aliasLines : List Str} (inventory : Inventory devices) (read : hostAliasLines host release = .ok aliasLines) :
    hostAliasLines (capture host release devices).host release = .ok aliasLines := by
  unfold hostAliasLines at read ⊢
  split
  · rename_i blank
    rw [if_pos blank] at read
    exact read
  · rename_i named
    rw [if_neg named, Linux.readAliasLines] at read
    cases content : host.read (Linux.modulesAliasPath release) with
    | error failure =>
        rw [content] at read
        cases read
    | ok text =>
        rw [content] at read
        have files : (capture host release devices).aliasFiles = [(Linux.modulesAliasPath release, text)] := by
          simp only [capture, content]
        have present : (Linux.modulesAliasPath release, text) ∈
            devices.flatMap attributeFiles ++ (capture host release devices).aliasFiles := by
          rw [files]
          simp
        have read' : (capture host release devices).host.read (Linux.modulesAliasPath release) = .ok text := by
          refine @tableHost_read _ [] [] _ _ present fun file member same => ?_
          rcases List.mem_append.mp member with own | kernel
          · obtain ⟨device, inDevices, field, _, _, _, key, _⟩ := mem_files_iff.mp own
            obtain ⟨name, recorded⟩ := inventory.recorded device inDevices
            rw [recorded.path, List.append_assoc] at key
            exact absurd (key.trans same).symm modulesAliasPath_ne
          · rw [files, List.mem_singleton] at kernel
            rw [kernel]
        rw [Linux.readAliasLines, read']
        exact read

end Capture

section Replay

variable [Interpreter] {host : Host} {release : Str} {devices : List UsbDevice}

theorem enumerateUsbDevices_capture (listed : enumerateUsbDevices host usbDevicesRoot = .ok devices) :
    enumerateUsbDevices (capture host release devices).host usbDevicesRoot = .ok devices := by
  have attrs : ∀ name attr, readAttr (capture host release devices).host (usbDevicesRoot ++ '/' :: name) attr =
      readAttr (snapshot devices) (usbDevicesRoot ++ '/' :: name) attr := by
    intro name attr
    rw [readAttr, readAttr, List.append_assoc, read_capture]
  have nodes : enumerateNode (capture host release devices).host usbDevicesRoot =
      enumerateNode (snapshot devices) usbDevicesRoot := by
    funext name
    unfold enumerateNode completeDevice classByte
    simp only [attrs]
  rw [← enumerateUsbDevices_snapshot listed, enumerateUsbDevices, enumerateUsbDevices, nodes]
  rfl

theorem mem_of_pickDevice {spec : Option Str} {device : UsbDevice}
    (listed : enumerateUsbDevices host usbDevicesRoot = .ok devices)
    (picked : pickDevice (some host) spec = .ok (some device)) : device ∈ devices := by
  rw [pickDevice, listed] at picked
  have first := List.mem_of_mem_head? (Except.ok.inj picked)
  split at first
  · exact List.mem_of_mem_filter first
  · exact first

/-- A diagnosis, a report and a repair plan are the same on the host and on the record of it: they
depend on the devices, on the names of their drivers and on the alias file, and on nothing else. -/
theorem run_replayed (runtime : Runtime) (loads : Loads) (journals : Journals) (kb : Option Kb)
    (journalPath : Option Str) {argv : List Str}
    (listed : enumerateUsbDevices host usbDevicesRoot = .ok devices)
    (readable : ∃ aliasLines, hostAliasLines host
      (kernelRelease runtime.toMachine (optValue (parse argv).opts "--kernel-release")) = .ok aliasLines)
    (linked : ∀ device ∈ devices, ∃ driver, driverOf host device = .ok driver)
    (command : ∀ cmd ∈ (parse argv).positional.head?, cmd ≠ "verify" ∧ cmd ≠ "doctor") :
    let record := capture host (kernelRelease runtime.toMachine (optValue (parse argv).opts "--kernel-release")) devices
    run runtime loads journals (some record.host) kb journalPath argv =
      run runtime loads journals (some host) kb journalPath argv := by
  intro record
  have inventory := inventory_of_enumerated listed
  refine run_of_same_device ?_ (fun device picked => ?_) command
  · rw [pickDevice, pickDevice, listed, enumerateUsbDevices_capture listed]
  · obtain ⟨aliasLines, read⟩ := readable
    have member := mem_of_pickDevice listed picked
    obtain ⟨driver, bound⟩ := linked device member
    rw [diagnoseOne, diagnoseOne, read, bound, hostAliasLines_capture inventory read, driverOf_capture inventory member bound]

end Replay

theorem driverOf_keyboardHost (device : UsbDevice) : ∃ driver, driverOf keyboardHost device = .ok driver := by
  have answers : ∀ node, ∃ driver, boundDriver keyboardHost node = .ok driver := by
    intro node
    have resolved : keyboardHost.resolveRealpath (node ++ "/driver") = .ok (node ++ "/driver") := rfl
    obtain ⟨present, found⟩ : ∃ present, keyboardHost.exists (node ++ "/driver") = .ok present := ⟨_, rfl⟩
    rw [boundDriver, resolved]
    simp only [found]
    cases present with
    | false => exact ⟨_, rfl⟩
    | true => exact ⟨_, rfl⟩
  obtain ⟨first, interface⟩ := answers (firstInterface device)
  obtain ⟨second, node⟩ := answers device.sysfsPath
  rw [driverOf, interface]
  by_cases found : truthy first = true
  · exact ⟨first, if_pos found⟩
  · exact ⟨second, (if_neg found).trans node⟩

theorem run_replayed_keyboard :
    let _ : Interpreter := asciiInterpreter
    ∃ devices, enumerateUsbDevices keyboardHost usbDevicesRoot = .ok devices ∧
      run bareRuntime readLoads (fun _ => .decoded none) (some (capture keyboardHost "6.8.0" devices).host)
          (some goldenKb) none ["report", "--json", "--device=0bda:8811"] =
        run bareRuntime readLoads (fun _ => .decoded none) (some keyboardHost) (some goldenKb) none
          ["report", "--json", "--device=0bda:8811"] := by
  intro _
  have returned : (enumerateUsbDevices keyboardHost usbDevicesRoot).toBool = true := by decide +kernel
  cases listed : enumerateUsbDevices keyboardHost usbDevicesRoot with
  | error failure =>
      rw [listed] at returned
      cases returned
  | ok devices =>
      refine ⟨devices, rfl, ?_⟩
      exact @run_replayed _ keyboardHost devices bareRuntime readLoads (fun _ => .decoded none) (some goldenKb) none
        ["report", "--json", "--device=0bda:8811"] listed ⟨_, rfl⟩ (fun device _ => driverOf_keyboardHost device) (by decide)

end DongleRescue.Cli
