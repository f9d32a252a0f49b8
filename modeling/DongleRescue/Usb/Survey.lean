import DongleRescue.Usb.Modalias

namespace DongleRescue.Usb

open DongleRescue.Data DongleRescue.Linux

/-! What an enumeration finds on a host that answers anything, and fails in the one
defined way. -/

/-- The accesses of the host fail with its own exception only. -/
structure RaisesHostError (host : Host) : Prop where
  read : ∀ path failure, host.read path = .error failure → ∃ message, failure = .hostError message
  «exists» : ∀ path failure, host.exists path = .error failure → ∃ message, failure = .hostError message
  listdir : ∀ path failure, host.listdir path = .error failure → ∃ message, failure = .hostError message
  resolveRealpath : ∀ path failure, host.resolveRealpath path = .error failure →
    ∃ message, failure = .hostError message

def hexAttr (host : Host) (path name : Str) : Bool :=
  match readAttr host path name with
  | .ok value => isHex4 value
  | .error _ => false

/-- A device node whose three ids read as four hexadecimal digits. -/
def complete (host : Host) (root name : Str) : Bool :=
  isDeviceNode name && hexAttr host (root ++ '/' :: name) "idVendor" &&
    hexAttr host (root ++ '/' :: name) "idProduct" && hexAttr host (root ++ '/' :: name) "bcdDevice"

def listing (host : Host) (root : Str) : List Str :=
  match host.listdir root with
  | .ok listed => listed
  | .error _ => []

/-- The attribute is the text of one of the device's ids, in lower case. -/
def HasId (host : Host) (path name id : Str) : Prop :=
  ∃ text, readAttr host path name = .ok (some text) ∧ id = lower text

structure IsDeviceOf (host : Host) (root name : Str) (device : UsbDevice) : Prop where
  path : device.sysfsPath = root ++ '/' :: name
  vid : HasId host (root ++ '/' :: name) "idVendor" device.vid
  pid : HasId host (root ++ '/' :: name) "idProduct" device.pid
  bcdDevice : HasId host (root ++ '/' :: name) "bcdDevice" device.bcdDevice

section Nodes

variable [Interpreter] {host : Host} {root path name : Str}

/-- The class number is missing, or a hexadecimal number that fits a byte. -/
def ClassByte (host : Host) (path name : Str) : Prop :=
  ∃ number, classByte host path name = .ok number ∧ 0 ≤ number ∧ number ≤ 255

/-- The class numbers of a device are those the node states. -/
structure ClassRead (host : Host) (path : Str) (device : UsbDevice) : Prop where
  dc : classByte host path "bDeviceClass" = .ok device.deviceClass
  dsc : classByte host path "bDeviceSubClass" = .ok device.deviceSubclass
  dp : classByte host path "bDeviceProtocol" = .ok device.deviceProtocol

structure ReadableClass (host : Host) (path : Str) : Prop where
  dc : ClassByte host path "bDeviceClass"
  dsc : ClassByte host path "bDeviceSubClass"
  dp : ClassByte host path "bDeviceProtocol"

/-- The class numbers of a node are numbers, of whatever size. -/
structure NumericClass (host : Host) (path : Str) : Prop where
  dc : ∃ number, classByte host path "bDeviceClass" = .ok number
  dsc : ∃ number, classByte host path "bDeviceSubClass" = .ok number
  dp : ∃ number, classByte host path "bDeviceProtocol" = .ok number

theorem ReadableClass.numeric (readable : ReadableClass host path) : NumericClass host path := by
  obtain ⟨⟨dc, dcRead, _⟩, ⟨dsc, dscRead, _⟩, ⟨dp, dpRead, _⟩⟩ := readable
  exact ⟨⟨dc, dcRead⟩, ⟨dsc, dscRead⟩, ⟨dp, dpRead⟩⟩

omit [Interpreter] in
theorem readAttr_returns (only : RaisesHostError host) (path name : Str) :
    ∃ value, readAttr host path name = .ok value := by
  rw [readAttr]
  cases answer : host.read (path ++ '/' :: name) with
  | ok raw => exact ⟨_, rfl⟩
  | error failure =>
      obtain ⟨message, same⟩ := only.read _ _ answer
      rw [same]
      exact ⟨_, rfl⟩

omit [Interpreter] in
theorem hexAttr_iff : hexAttr host path name = true ↔
    ∃ text, readAttr host path name = .ok (some text) ∧ IsHex4 text := by
  rw [hexAttr]
  cases readAttr host path name with
  | error failure => simp
  | ok value =>
      cases value with
      | none => simp [isHex4]
      | some text => simp [isHex4]

omit [Interpreter] in
theorem complete_iff : complete host root name = true ↔ isDeviceNode name = true ∧
    hexAttr host (root ++ '/' :: name) "idVendor" = true ∧
    hexAttr host (root ++ '/' :: name) "idProduct" = true ∧
    hexAttr host (root ++ '/' :: name) "bcdDevice" = true := by
  simp only [complete, Bool.and_eq_true, and_assoc]

theorem enumerateNode_eq {vid pid bcd : Option Str}
    (vidRead : readAttr host (root ++ '/' :: name) "idVendor" = .ok vid)
    (pidRead : readAttr host (root ++ '/' :: name) "idProduct" = .ok pid)
    (bcdRead : readAttr host (root ++ '/' :: name) "bcdDevice" = .ok bcd) :
    enumerateNode host root name = if complete host root name then
        completeDevice host (root ++ '/' :: name) (vid.getD []) (pid.getD []) (bcd.getD [])
      else .ok none := by
  have ids : complete host root name = (isDeviceNode name && isHex4 vid && isHex4 pid && isHex4 bcd) := by
    simp only [complete, hexAttr, vidRead, pidRead, bcdRead]
  rw [enumerateNode, ids]
  cases isDeviceNode name with
  | false => rfl
  | true =>
      simp only [vidRead, pidRead, bcdRead, Bool.not_true, Bool.false_eq_true, if_false, Bool.true_and]
      cases vid with
      | none => rfl
      | some vid =>
          cases pid with
          | none => cases isHex4 (some vid) <;> rfl
          | some pid =>
              cases bcd with
              | none => cases isHex4 (some vid) <;> cases isHex4 (some pid) <;> rfl
              | some bcd => rfl

theorem enumerateNode_incomplete (only : RaisesHostError host) (incomplete : complete host root name = false) :
    enumerateNode host root name = .ok none := by
  obtain ⟨vid, vidRead⟩ := readAttr_returns only (root ++ '/' :: name) "idVendor"
  obtain ⟨pid, pidRead⟩ := readAttr_returns only (root ++ '/' :: name) "idProduct"
  obtain ⟨bcd, bcdRead⟩ := readAttr_returns only (root ++ '/' :: name) "bcdDevice"
  rw [enumerateNode_eq vidRead pidRead bcdRead, incomplete]
  rfl

theorem init_returns {vid pid bcd : Str} {dc dsc dp : Int} {manufacturer product serial modalias : Option Str}
    (vidHex : IsHex4 vid) (pidHex : IsHex4 pid) (bcdHex : IsHex4 bcd) :
    ∃ device, UsbDevice.init path vid pid bcd dc dsc dp manufacturer product serial modalias = .ok device ∧
      device.sysfsPath = path ∧
      (device.vid = lower vid ∧ device.pid = lower pid ∧ device.bcdDevice = lower bcd) ∧
      device.deviceClass = dc ∧ device.deviceSubclass = dsc ∧ device.deviceProtocol = dp := by
  have accepted {text name : Str} (hex : IsHex4 text) : requireHex4 text name = .ok ⟨hex⟩ := by
    rw [requireHex4, dif_pos hex]
  rw [UsbDevice.init, accepted vidHex, accepted pidHex, accepted bcdHex]
  exact ⟨_, rfl, rfl, ⟨rfl, rfl, rfl⟩, rfl, rfl, rfl⟩

/-- The constructor never refuses what the enumeration gives it. -/
theorem completeDevice_returns (only : RaisesHostError host) {vid pid bcd : Str} (vidHex : IsHex4 vid)
    (pidHex : IsHex4 pid) (bcdHex : IsHex4 bcd) {dc dsc dp : Int}
    (dcRead : classByte host path "bDeviceClass" = .ok dc)
    (dscRead : classByte host path "bDeviceSubClass" = .ok dsc)
    (dpRead : classByte host path "bDeviceProtocol" = .ok dp) :
    ∃ device, completeDevice host path vid pid bcd = .ok (some device) ∧ device.sysfsPath = path ∧
      (device.vid = lower vid ∧ device.pid = lower pid ∧ device.bcdDevice = lower bcd) ∧
      device.deviceClass = dc ∧ device.deviceSubclass = dsc ∧ device.deviceProtocol = dp := by
  obtain ⟨manufacturer, manufacturerRead⟩ := readAttr_returns only path "manufacturer"
  obtain ⟨product, productRead⟩ := readAttr_returns only path "product"
  obtain ⟨serial, serialRead⟩ := readAttr_returns only path "serial"
  obtain ⟨device, built, fields⟩ := init_returns vidHex pidHex bcdHex
  rw [completeDevice]
  simp only [dcRead, dscRead, dpRead, manufacturerRead, productRead, serialRead, bind, Except.bind]
  rw [built]
  exact ⟨device, rfl, fields⟩

/-- A complete node yields a device as soon as its class numbers can be read. -/
theorem enumerateNode_complete (only : RaisesHostError host) (ids : complete host root name = true)
    {dc dsc dp : Int} (dcRead : classByte host (root ++ '/' :: name) "bDeviceClass" = .ok dc)
    (dscRead : classByte host (root ++ '/' :: name) "bDeviceSubClass" = .ok dsc)
    (dpRead : classByte host (root ++ '/' :: name) "bDeviceProtocol" = .ok dp) :
    ∃ device, enumerateNode host root name = .ok (some device) ∧ IsDeviceOf host root name device ∧
      device.deviceClass = dc ∧ device.deviceSubclass = dsc ∧ device.deviceProtocol = dp := by
  obtain ⟨_, vidAttr, pidAttr, bcdAttr⟩ := complete_iff.mp ids
  obtain ⟨vid, vidRead, vidHex⟩ := hexAttr_iff.mp vidAttr
  obtain ⟨pid, pidRead, pidHex⟩ := hexAttr_iff.mp pidAttr
  obtain ⟨bcd, bcdRead, bcdHex⟩ := hexAttr_iff.mp bcdAttr
  rw [enumerateNode_eq vidRead pidRead bcdRead, if_pos ids]
  obtain ⟨device, built, here, ⟨sameVid, samePid, sameBcd⟩, classes⟩ :=
    completeDevice_returns only vidHex pidHex bcdHex dcRead dscRead dpRead
  exact ⟨device, built, ⟨here, ⟨vid, vidRead, sameVid⟩, ⟨pid, pidRead, samePid⟩, ⟨bcd, bcdRead, sameBcd⟩⟩, classes⟩

/-- Whatever a complete node returns is its device, with the class numbers as read. -/
theorem enumerateNode_read (only : RaisesHostError host) (ids : complete host root name = true)
    {found : Option UsbDevice} (returned : enumerateNode host root name = .ok found) :
    ∃ device, found = some device ∧ IsDeviceOf host root name device ∧
      ClassRead host (root ++ '/' :: name) device := by
  obtain ⟨vid, vidRead⟩ := readAttr_returns only (root ++ '/' :: name) "idVendor"
  obtain ⟨pid, pidRead⟩ := readAttr_returns only (root ++ '/' :: name) "idProduct"
  obtain ⟨bcd, bcdRead⟩ := readAttr_returns only (root ++ '/' :: name) "bcdDevice"
  have whole := returned
  rw [enumerateNode_eq vidRead pidRead bcdRead, if_pos ids, completeDevice] at whole
  obtain ⟨dc, dcRead, whole⟩ := bind_ok whole
  obtain ⟨dsc, dscRead, whole⟩ := bind_ok whole
  obtain ⟨dp, dpRead, _⟩ := bind_ok whole
  obtain ⟨device, found', isDevice, sameDc, sameDsc, sameDp⟩ := enumerateNode_complete only ids dcRead dscRead dpRead
  rw [found'] at returned
  exact ⟨device, (Except.ok.inj returned).symm, isDevice,
    ⟨sameDc ▸ dcRead, sameDsc ▸ dscRead, sameDp ▸ dpRead⟩⟩

end Nodes

section Survey

variable [Interpreter] {host : Host} {root path : Str} {names : List Str} {found : List (Option UsbDevice)}
  {devices : List UsbDevice} {device : UsbDevice}

/-- The devices are those of the complete nodes, one for each in the order of their names, and
each has a modalias the matcher accepts. -/
def Usable (host : Host) (root : Str) (devices : List UsbDevice) : Prop :=
  ∃ nodes, nodes.Pairwise (· ≤ ·) ∧ nodes.Perm ((listing host root).filter (complete host root)) ∧
    List.Forall₂ (IsDeviceOf host root) nodes devices ∧
    ∀ device ∈ devices, sanitizeModalias (device.modalias.getD []) ≠ none

theorem forall₂_devices (only : RaisesHostError host)
    (related : List.Forall₂ (fun name found => enumerateNode host root name = .ok found) names found) :
    List.Forall₂ (fun name device => IsDeviceOf host root name device ∧ ClassRead host (root ++ '/' :: name) device)
      (names.filter (complete host root)) (found.filterMap id) := by
  induction related with
  | nil => exact .nil
  | @cons name here names found returned _ ih =>
      cases ids : complete host root name with
      | true =>
          obtain ⟨device, same, isDevice⟩ := enumerateNode_read only ids returned
          rw [List.filter_cons_of_pos ids, same]
          exact .cons isDevice ih
      | false =>
          rw [enumerateNode_incomplete only ids] at returned
          cases returned
          rw [List.filter_cons_of_neg (by simp [ids])]
          exact ih

omit [Interpreter] in
theorem sanitizeModalias_iff (enumerated : Enumerated device) :
    sanitizeModalias (device.modalias.getD []) ≠ none ↔ ClassBytes device := by
  rw [enumerated.modalias_eq, sanitizeModalias]
  simp only [strip_modaliasText]
  have accepted : modaliasOk (modaliasText device none) = true ↔ ClassBytes device := modaliasOk_iff
  rw [← accepted]
  simp

theorem classBytes_iff (read : ClassRead host path device) : ClassBytes device ↔ ReadableClass host path := by
  have byte {name : Str} {number : Int} (read : classByte host path name = .ok number) :
      ClassByte host path name ↔ 0 ≤ number ∧ number ≤ 255 := by
    rw [ClassByte, read]
    simp
  constructor
  · intro ⟨dc, dsc, dp⟩
    exact ⟨(byte read.dc).mpr dc, (byte read.dsc).mpr dsc, (byte read.dp).mpr dp⟩
  · intro readable
    exact ⟨(byte read.dc).mp readable.dc, (byte read.dsc).mp readable.dsc, (byte read.dp).mp readable.dp⟩

theorem enumerateUsbDevices_read (only : RaisesHostError host)
    (returned : enumerateUsbDevices host root = .ok devices) :
    List.Forall₂ (fun name device => IsDeviceOf host root name device ∧ ClassRead host (root ++ '/' :: name) device)
      ((sortTexts (listing host root)).filter (complete host root)) devices := by
  unfold enumerateUsbDevices at returned
  rw [listing]
  cases listed : host.listdir root with
  | ok names =>
      rw [listed] at returned
      obtain ⟨found, mapped, returned⟩ := bind_ok returned
      cases returned
      exact forall₂_devices only (forall₂_of_mapM mapped)
  | error failure =>
      obtain ⟨message, same⟩ := only.listdir root failure listed
      rw [listed, same] at returned
      cases returned
      exact .nil

/-- An enumeration fails on a class that is no number, and on nothing else. -/
theorem enumerateUsbDevices_returns_iff (only : RaisesHostError host) :
    (∃ devices, enumerateUsbDevices host root = .ok devices) ↔
      ∀ name ∈ listing host root, complete host root name = true → NumericClass host (root ++ '/' :: name) := by
  constructor
  · intro ⟨devices, returned⟩ name member ids
    have inNodes : name ∈ (sortTexts (listing host root)).filter (complete host root) :=
      List.mem_filter.mpr ⟨(sortTexts_perm _).mem_iff.mpr member, ids⟩
    obtain ⟨device, _, _, read⟩ := exists_of_mem_left (enumerateUsbDevices_read only returned) inNodes
    exact ⟨⟨_, read.dc⟩, ⟨_, read.dsc⟩, ⟨_, read.dp⟩⟩
  · intro numeric
    rw [enumerateUsbDevices]
    cases listed : host.listdir root with
    | ok names =>
        have each : ∀ name ∈ sortTexts names, ∃ found, enumerateNode host root name = .ok found := by
          intro name member
          cases ids : complete host root name with
          | false => exact ⟨none, enumerateNode_incomplete only ids⟩
          | true =>
              have inListing : name ∈ listing host root := by
                rw [listing, listed]
                exact (sortTexts_perm names).mem_iff.mp member
              obtain ⟨⟨dc, dcRead⟩, ⟨dsc, dscRead⟩, ⟨dp, dpRead⟩⟩ := numeric name inListing ids
              obtain ⟨device, built, _⟩ := enumerateNode_complete only ids dcRead dscRead dpRead
              exact ⟨some device, built⟩
        obtain ⟨found, mapped⟩ := mapM_returns each
        simp only [mapped]
        exact ⟨_, rfl⟩
    | error failure =>
        obtain ⟨message, same⟩ := only.listdir root failure listed
        rw [same]
        exact ⟨_, rfl⟩

/-- An enumeration is total and its devices usable exactly when every complete node states bytes
for its class numbers, or nothing. -/
theorem enumerateUsbDevices_usable_iff (only : RaisesHostError host) :
    (∃ devices, enumerateUsbDevices host root = .ok devices ∧ Usable host root devices) ↔
      ∀ name ∈ listing host root, complete host root name = true → ReadableClass host (root ++ '/' :: name) := by
  constructor
  · intro ⟨devices, returned, _, _, _, _, accepted⟩ name member ids
    have inNodes : name ∈ (sortTexts (listing host root)).filter (complete host root) :=
      List.mem_filter.mpr ⟨(sortTexts_perm _).mem_iff.mpr member, ids⟩
    obtain ⟨device, inDevices, _, read⟩ := exists_of_mem_left (enumerateUsbDevices_read only returned) inNodes
    rw [← classBytes_iff read, ← sanitizeModalias_iff (enumerateUsbDevices_enumerated returned inDevices)]
    exact accepted device inDevices
  · intro readable
    obtain ⟨devices, returned⟩ := (enumerateUsbDevices_returns_iff only).mpr fun name member ids =>
      (readable name member ids).numeric
    have found := enumerateUsbDevices_read only returned
    refine ⟨devices, returned, _, ?_, ?_, found.imp fun _ _ both => both.1, ?_⟩
    · exact (sortTexts_pairwise _).filter _
    · exact (sortTexts_perm _).filter _
    · intro device member
      obtain ⟨name, inNodes, _, read⟩ := exists_of_mem_right found member
      obtain ⟨inSorted, ids⟩ := List.mem_filter.mp inNodes
      rw [sanitizeModalias_iff (enumerateUsbDevices_enumerated returned member), classBytes_iff read]
      exact readable name ((sortTexts_perm _).mem_iff.mp inSorted) ids

end Survey

/-- Two dongles, of which the second states the given class. -/
def classedHost (deviceClass : Str) : Host :=
  { tableHost [("/sys/bus/usb/devices/1-1/idVendor", "0bda\n"), ("/sys/bus/usb/devices/1-1/idProduct", "8811\n"),
      ("/sys/bus/usb/devices/1-1/bcdDevice", "0200\n"), ("/sys/bus/usb/devices/1-2/idVendor", "148F\n"),
      ("/sys/bus/usb/devices/1-2/idProduct", "7601\n"), ("/sys/bus/usb/devices/1-2/bcdDevice", "0000\n"),
      ("/sys/bus/usb/devices/1-2/bDeviceClass", deviceClass)] [] [] with
    listdir := fun _ => .ok ["1-2", "1-1"] }

theorem raisesHostError_tableHost (files links : List (Str × Str)) (directories names : List Str) :
    RaisesHostError { tableHost files links directories with listdir := fun _ => .ok names } where
  read path failure raised := by
    simp only [tableHost] at raised
    split at raised
    · cases raised
    · cases raised
      exact ⟨_, rfl⟩
  «exists» path failure raised := by cases raised
  listdir path failure raised := by cases raised
  resolveRealpath path failure raised := by cases raised

theorem raisesHostError_classedHost (deviceClass : Str) : RaisesHostError (classedHost deviceClass) :=
  raisesHostError_tableHost _ _ _ _

theorem enumerateUsbDevices_usable_vendor :
    ∃ devices, @enumerateUsbDevices asciiInterpreter (classedHost "ff\n") usbDevicesRoot = .ok devices ∧
      Usable (classedHost "ff\n") usbDevicesRoot devices := by
  let _ : Interpreter := asciiInterpreter
  have absent : (0 : Int) ≤ 0 ∧ (0 : Int) ≤ 255 := by decide
  refine (enumerateUsbDevices_usable_iff (raisesHostError_classedHost "ff\n")).mpr ?_
  have names : listing (classedHost "ff\n") usbDevicesRoot = ["1-2", "1-1"] := rfl
  rw [names]
  refine List.forall_mem_cons.mpr ⟨fun _ => ?_, List.forall_mem_singleton.mpr fun _ => ?_⟩
  · exact ⟨⟨255, rfl, by decide⟩, ⟨0, rfl, absent⟩, ⟨0, rfl, absent⟩⟩
  · exact ⟨⟨0, rfl, absent⟩, ⟨0, rfl, absent⟩, ⟨0, rfl, absent⟩⟩

/-- A class that is no number takes the other node down, and one above a byte yields a device no
row can match. -/
theorem bad_class_takes_all_down :
    RaisesHostError (classedHost "zz\n") ∧
      (∃ failure, @enumerateUsbDevices asciiInterpreter (classedHost "zz\n") usbDevicesRoot = .error failure) ∧
      ∃ first second, @enumerateUsbDevices asciiInterpreter (classedHost "1ff\n") usbDevicesRoot =
          .ok [first, second] ∧ sanitizeModalias (second.modalias.getD []) = none := by
  refine ⟨raisesHostError_classedHost _, ⟨_, rfl⟩, _, _, rfl, ?_⟩
  decide

end DongleRescue.Usb
