import DongleRescue.Host
import DongleRescue.Types

namespace DongleRescue.Usb

open DongleRescue.Data

/-! USB device enumeration from sysfs.  Device nodes carry the ids, interface
nodes carry the modalias and the driver link. -/

def usbDevicesRoot : Str := "/sys/bus/usb/devices"

/-- One sysfs attribute, stripped; an absent or empty one is `None`.  Only the
host's own exception counts as absence. -/
def readAttr (host : Host) (path name : Str) : Py (Option Str) :=
  match host.read (path ++ '/' :: name) with
  | .ok raw => .ok (if strip raw = [] then none else some (strip raw))
  | .error (.hostError _) => .ok none
  | .error (.osError message) => .error (.host (.osError message))

def isHex4 (value : Option Str) : Bool :=
  match value with
  | some text => decide (IsHex4 text)
  | none => false

def isDeviceNode (name : Str) : Bool := !name.contains ':' && !startsWith name "usb"

def buildDeviceModalias (vid pid bcd : Str) (dc dsc dp : Int) : Str :=
  "usb:v" ++ upper vid ++ "p" ++ upper pid ++ "d" ++ upper bcd ++
    "dc" ++ format02X dc ++ "dsc" ++ format02X dsc ++ "dp" ++ format02X dp

section Enumeration

variable [Interpreter]

def classByte (host : Host) (path name : Str) : Py Int := do
  int16 ((← readAttr host path name).getD "0")

/-- The device of a node with complete ids; failures of the remaining attributes
that the constructor call raises skip the node. -/
def completeDevice (host : Host) (path vid pid bcd : Str) : Py (Option UsbDevice) := do
  let dc ← classByte host path "bDeviceClass"
  let dsc ← classByte host path "bDeviceSubClass"
  let dp ← classByte host path "bDeviceProtocol"
  let construction : Py UsbDevice := do
    let manufacturer ← readAttr host path "manufacturer"
    let product ← readAttr host path "product"
    let serial ← readAttr host path "serial"
    UsbDevice.init path vid pid bcd dc dsc dp manufacturer product serial
      (some (buildDeviceModalias vid pid bcd dc dsc dp))
  match construction with
  | .ok device => .ok (some device)
  | .error (.valueError _) | .error (.host (.osError _)) => .ok none
  | .error other => .error other

def enumerateNode (host : Host) (root name : Str) : Py (Option UsbDevice) :=
  if !isDeviceNode name then .ok none
  else do
    let path := root ++ '/' :: name
    let vid ← readAttr host path "idVendor"
    let pid ← readAttr host path "idProduct"
    let bcd ← readAttr host path "bcdDevice"
    match vid, pid, bcd with
    | some vid, some pid, some bcd =>
        if isHex4 (some vid) && isHex4 (some pid) && isHex4 (some bcd) then
          completeDevice host path vid pid bcd
        else .ok none
    | _, _, _ => .ok none

def enumerateUsbDevices (host : Host) (root : Str) : Py (List UsbDevice) :=
  match host.listdir root with
  | .ok listed => do
      let nodes ← (sortTexts listed).mapM (enumerateNode host root)
      return nodes.filterMap id
  | .error (.hostError _) => .ok []
  | .error (.osError message) => .error (.host (.osError message))

end Enumeration

/-- Name of the driver bound at a node, or `None`; the link is resolved, then its
target must exist. -/
def boundDriver (host : Host) (path : Str) : Py (Option Str) :=
  match host.resolveRealpath (path ++ "/driver") with
  | .error _ => .ok none
  | .ok target =>
      match host.exists target with
      | .error failure => .error (.host failure)
      | .ok false => .ok none
      | .ok true => .ok (some (basename target))

def DriverLink (host : Host) (path target : Str) : Prop :=
  host.resolveRealpath (path ++ "/driver") = .ok target ∧ host.exists target = .ok true

def Bound (host : Host) (path : Str) : Prop :=
  ∃ target, DriverLink host path target ∧ basename target ≠ []

theorem boundDriver_eq_some_iff {host : Host} {path name : Str} :
    boundDriver host path = .ok (some name) ↔
      ∃ target, DriverLink host path target ∧ basename target = name := by
  unfold boundDriver DriverLink
  cases resolved : host.resolveRealpath (path ++ "/driver") with
  | error failure => simp
  | ok target =>
      cases present : host.exists target with
      | error failure => simp [present]
      | ok there =>
          cases there with
          | false => simp [present]
          | true => simp [present]

theorem truthy_boundDriver_iff {host : Host} {path : Str} {driver : Option Str}
    (read : boundDriver host path = .ok driver) : truthy driver = true ↔ Bound host path := by
  rw [truthy_iff]
  constructor
  · intro ⟨name, same, nonempty⟩
    obtain ⟨target, link, named⟩ := boundDriver_eq_some_iff.mp (same ▸ read)
    exact ⟨target, link, named ▸ nonempty⟩
  · intro ⟨target, link, nonempty⟩
    have known := boundDriver_eq_some_iff.mpr ⟨target, link, rfl⟩
    exact ⟨basename target, Except.ok.inj (read.symm.trans known), nonempty⟩

theorem buildDeviceModalias_lower {vid pid bcd : Str} (vidHex : IsHex4 vid) (pidHex : IsHex4 pid)
    (bcdHex : IsHex4 bcd) (dc dsc dp : Int) :
    buildDeviceModalias (lower vid) (lower pid) (lower bcd) dc dsc dp =
      buildDeviceModalias vid pid bcd dc dsc dp := by
  unfold buildDeviceModalias
  rw [upper_lower vidHex.2, upper_lower pidHex.2, upper_lower bcdHex.2]

def Enumerated (device : UsbDevice) : Prop :=
  device.modalias = some (buildDeviceModalias device.vid device.pid device.bcdDevice
    device.deviceClass device.deviceSubclass device.deviceProtocol)

variable [Interpreter]

private theorem init_enumerated {path vid pid bcd : Str} {dc dsc dp : Int}
    {manufacturer product serial : Option Str} {device : UsbDevice}
    (built : UsbDevice.init path vid pid bcd dc dsc dp manufacturer product serial
      (some (buildDeviceModalias vid pid bcd dc dsc dp)) = .ok device) : Enumerated device := by
  rw [UsbDevice.init] at built
  obtain ⟨⟨vidHex⟩, _, built⟩ := bind_ok built
  obtain ⟨⟨pidHex⟩, _, built⟩ := bind_ok built
  obtain ⟨⟨bcdHex⟩, _, built⟩ := bind_ok built
  have same := Except.ok.inj built
  rw [← same]
  exact congrArg some (buildDeviceModalias_lower vidHex pidHex bcdHex dc dsc dp).symm

private theorem completeDevice_enumerated {host : Host} {path vid pid bcd : Str} {device : UsbDevice}
    (found : completeDevice host path vid pid bcd = .ok (some device)) : Enumerated device := by
  rw [completeDevice] at found
  obtain ⟨dc, _, found⟩ := bind_ok found
  obtain ⟨dsc, _, found⟩ := bind_ok found
  obtain ⟨dp, _, found⟩ := bind_ok found
  simp only at found
  split at found
  · rename_i built construction
    cases found
    obtain ⟨manufacturer, _, construction⟩ := bind_ok construction
    obtain ⟨product, _, construction⟩ := bind_ok construction
    obtain ⟨serial, _, construction⟩ := bind_ok construction
    exact init_enumerated construction
  · cases found
  · cases found
  · cases found

private theorem enumerateNode_enumerated {host : Host} {root name : Str} {device : UsbDevice}
    (found : enumerateNode host root name = .ok (some device)) : Enumerated device := by
  rw [enumerateNode] at found
  split at found
  · cases found
  · obtain ⟨vid, _, found⟩ := bind_ok found
    obtain ⟨pid, _, found⟩ := bind_ok found
    obtain ⟨bcd, _, found⟩ := bind_ok found
    split at found
    · split at found
      · exact completeDevice_enumerated found
      · cases found
    · cases found

/-- Every device of an enumeration carries the modalias of its own ids. -/
theorem enumerateUsbDevices_enumerated {host : Host} {root : Str} {devices : List UsbDevice}
    {device : UsbDevice} (listed : enumerateUsbDevices host root = .ok devices)
    (member : device ∈ devices) : Enumerated device := by
  rw [enumerateUsbDevices] at listed
  split at listed
  · obtain ⟨nodes, mapped, listed⟩ := bind_ok listed
    cases listed
    obtain ⟨node, inNodes, same⟩ := List.mem_filterMap.mp member
    have nodeFound : node = some device := same
    subst node
    obtain ⟨name, _, found⟩ := mem_mapM mapped inNodes
    exact enumerateNode_enumerated found
  · cases listed
    simp at member
  · cases listed

def pluggedHost (vid pid : Str) : Host :=
  { tableHost [("/sys/bus/usb/devices/1-2/idVendor", vid ++ ['\n']),
      ("/sys/bus/usb/devices/1-2/idProduct", pid ++ ['\n']),
      ("/sys/bus/usb/devices/1-2/bcdDevice", "0200\n"),
      ("/sys/bus/usb/devices/1-2/bDeviceClass", "00\n")] [] [] with
    listdir := fun _ => .ok ["usb1", "1-2:1.0", "1-2"] }

omit [Interpreter] in
theorem enumerateUsbDevices_golden :
    @enumerateUsbDevices asciiInterpreter (pluggedHost "0BDA" "8811") usbDevicesRoot =
      .ok [goldenDevice] := rfl

end DongleRescue.Usb
