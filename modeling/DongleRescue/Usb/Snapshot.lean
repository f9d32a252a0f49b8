import DongleRescue.Usb.Enumeration

namespace DongleRescue.Usb

open DongleRescue.Data

/-! Devices written out as the attribute files they are read from. -/

/-- A text that reading an attribute can give. -/
def IsAttribute (text : Str) : Prop := text ≠ [] ∧ strip text = text

/-- The attributes that make up a device, absent ones included. -/
def attributes (device : UsbDevice) : List (Str × Option Str) :=
  [("idVendor", some device.vid), ("idProduct", some device.pid), ("bcdDevice", some device.bcdDevice),
    ("bDeviceClass", some (format02X device.deviceClass)), ("bDeviceSubClass", some (format02X device.deviceSubclass)),
    ("bDeviceProtocol", some (format02X device.deviceProtocol)), ("manufacturer", device.manufacturer),
    ("product", device.product), ("serial", device.serial)]

def attributeFiles (device : UsbDevice) : List (Str × Str) :=
  (attributes device).filterMap fun field => field.2.map fun text => (device.sysfsPath ++ '/' :: field.1, text ++ ['\n'])

def nodeName (device : UsbDevice) : Str := device.sysfsPath.drop (usbDevicesRoot.length + 1)

/-- A host that has the devices, and nothing else on its bus. -/
def snapshot (devices : List UsbDevice) : Host :=
  { tableHost (devices.flatMap attributeFiles) [] [] with listdir := fun _ => .ok (devices.map nodeName) }

section Recorded

variable [Interpreter] {host : Host} {root path name attr text : Str} {device : UsbDevice} {value : Option Str}

/-- What is known of a device that was read from a node. -/
structure Recorded (root name : Str) (device : UsbDevice) : Prop where
  node : isDeviceNode name = true
  path : device.sysfsPath = root ++ '/' :: name
  modalias : Enumerated device
  manufacturer : ∀ text ∈ device.manufacturer, IsAttribute text
  product : ∀ text ∈ device.product, IsAttribute text
  serial : ∀ text ∈ device.serial, IsAttribute text

omit [Interpreter] in
theorem isAttribute_of_read (read : readAttr host path attr = .ok value) : ∀ text ∈ value, IsAttribute text := by
  rw [readAttr] at read
  split at read
  · cases read
    intro text found
    split at found
    · cases found
    · rename_i nonempty
      cases found
      exact ⟨nonempty, stripWhile_stripWhile _ _⟩
  · cases read
    intro text found
    cases found
  · cases read

theorem completeDevice_recorded {vid pid bcd : Str} (node : isDeviceNode name = true)
    (found : completeDevice host (root ++ '/' :: name) vid pid bcd = .ok (some device)) : Recorded root name device := by
  rw [completeDevice] at found
  obtain ⟨dc, _, found⟩ := bind_ok found
  obtain ⟨dsc, _, found⟩ := bind_ok found
  obtain ⟨dp, _, found⟩ := bind_ok found
  simp only at found
  split at found
  · rename_i built construction
    cases found
    obtain ⟨manufacturer, manufacturerRead, construction⟩ := bind_ok construction
    obtain ⟨product, productRead, construction⟩ := bind_ok construction
    obtain ⟨serial, serialRead, construction⟩ := bind_ok construction
    rw [UsbDevice.init] at construction
    obtain ⟨⟨vidHex⟩, _, construction⟩ := bind_ok construction
    obtain ⟨⟨pidHex⟩, _, construction⟩ := bind_ok construction
    obtain ⟨⟨bcdHex⟩, _, construction⟩ := bind_ok construction
    cases construction
    exact ⟨node, rfl, congrArg some (buildDeviceModalias_lower vidHex pidHex bcdHex dc dsc dp).symm,
      isAttribute_of_read manufacturerRead, isAttribute_of_read productRead, isAttribute_of_read serialRead⟩
  · cases found
  · cases found
  · cases found

theorem enumerateNode_recorded (found : enumerateNode host root name = .ok (some device)) :
    Recorded root name device := by
  rw [enumerateNode] at found
  split at found
  · cases found
  · rename_i node
    obtain ⟨vid, _, found⟩ := bind_ok found
    obtain ⟨pid, _, found⟩ := bind_ok found
    obtain ⟨bcd, _, found⟩ := bind_ok found
    split at found
    · split at found
      · exact completeDevice_recorded (by simpa using node) found
      · cases found
    · cases found

/-- A node whose attributes read as those of a device is that device. -/
theorem enumerateNode_of_attributes (recorded : Recorded root name device)
    (reads : ∀ field ∈ attributes device, readAttr host (root ++ '/' :: name) field.1 = .ok field.2) :
    enumerateNode host root name = .ok (some device) := by
  simp only [attributes, List.forall_mem_cons] at reads
  obtain ⟨vid, pid, bcd, dc, dsc, dp, manufacturer, product, serial, _⟩ := reads
  have ids : isHex4 (some device.vid) = true ∧ isHex4 (some device.pid) = true ∧ isHex4 (some device.bcdDevice) = true :=
    ⟨decide_eq_true device.vidHex.1, decide_eq_true device.pidHex.1, decide_eq_true device.bcdHex.1⟩
  have number : ∀ {attr value}, readAttr host (root ++ '/' :: name) attr = .ok (some (format02X value)) →
      classByte host (root ++ '/' :: name) attr = .ok value := by
    intro attr value read
    rw [classByte, read]
    exact int16_format02X value
  have built : UsbDevice.init (root ++ '/' :: name) device.vid device.pid device.bcdDevice device.deviceClass
      device.deviceSubclass device.deviceProtocol device.manufacturer device.product device.serial
      (some (buildDeviceModalias device.vid device.pid device.bcdDevice device.deviceClass device.deviceSubclass
        device.deviceProtocol)) = .ok device := by
    have modalias : device.modalias = _ := recorded.modalias
    rw [UsbDevice.init, requireHex4, dif_pos device.vidHex.1, requireHex4, dif_pos device.pidHex.1, requireHex4,
      dif_pos device.bcdHex.1, ← recorded.path, ← modalias]
    cases device with
    | mk _ _ _ _ _ _ _ _ _ _ _ vidHex pidHex bcdHex =>
        refine congrArg Except.ok ?_
        simp only [UsbDevice.mk.injEq, true_and, and_true]
        exact ⟨vidHex.2, pidHex.2, bcdHex.2⟩
  have complete : completeDevice host (root ++ '/' :: name) device.vid device.pid device.bcdDevice = .ok (some device) := by
    rw [completeDevice, number dc, number dsc, number dp]
    simp only [bind, Except.bind, manufacturer, product, serial]
    rw [built]
  rw [enumerateNode, recorded.node, if_neg (by decide)]
  simp only [vid, pid, bcd]
  refine (if_pos ?_).trans complete
  rw [ids.1, ids.2.1, ids.2.2]
  rfl

end Recorded

theorem find?_of_unique {files : List (Str × Str)} {key value : Str} (present : (key, value) ∈ files)
    (unique : ∀ file ∈ files, file.1 = key → file.2 = value) :
    files.find? (fun file => file.1 = key) = some (key, value) := by
  cases found : files.find? fun file => file.1 = key with
  | none =>
      have missed := List.find?_eq_none.mp found _ present
      simp at missed
  | some file =>
      have same : file.1 = key := by simpa using List.find?_some found
      have value_ := unique file (List.mem_of_find?_eq_some found) same
      exact congrArg some (Prod.ext same value_)

theorem tableHost_read {files links : List (Str × Str)} {directories : List Str} {path text : Str}
    (present : (path, text) ∈ files) (unique : ∀ file ∈ files, file.1 = path → file.2 = text) :
    (tableHost files links directories).read path = .ok text := by
  simp only [tableHost, find?_of_unique present unique]

theorem tableHost_append {files more links : List (Str × Str)} {directories : List Str} {path : Str}
    (absent : ∀ file ∈ more, file.1 ≠ path) :
    (tableHost (files ++ more) links directories).read path = (tableHost files links directories).read path ∧
      (tableHost (files ++ more) links directories).exists path = (tableHost files links directories).exists path := by
  have notFound : more.find? (fun file => decide (file.1 = path)) = none :=
    List.find?_eq_none.mpr fun file member => by simpa using absent file member
  have notPresent : more.any (fun file => decide (file.1 = path)) = false :=
    List.any_eq_false.mpr fun file member => by simpa using absent file member
  constructor
  · simp only [tableHost, List.find?_append, notFound, Option.or_none]
  · simp only [tableHost, List.any_append, notPresent, Bool.or_false]

theorem strip_line {text : Str} (isAttribute : IsAttribute text) : strip (text ++ ['\n']) = text := by
  obtain ⟨nonempty, solid⟩ := isAttribute
  have ends := stripWhile_ends isSpace text
  rw [show stripWhile isSpace text = text from solid] at ends
  exact stripWhile_append nonempty ends.1 ends.2 (by decide)

theorem mapM_map_some {α β : Type} {f : β → Py (Option α)} {g : α → β} {items : List α}
    (inverts : ∀ item ∈ items, f (g item) = .ok (some item)) : (items.map g).mapM f = .ok (items.map some) := by
  induction items with
  | nil => rfl
  | cons item items ih =>
      obtain ⟨here, later⟩ := List.forall_mem_cons.mp inverts
      rw [List.map_cons, List.mapM_cons, here, ih later]
      rfl

theorem sortTexts_of_sorted {texts : List Str} (sorted : texts.Pairwise (· ≤ ·)) : sortTexts texts = texts :=
  (sortTexts_perm texts).eq_of_pairwise (fun _ _ _ _ => le_antisymm) (sortTexts_pairwise texts) sorted

theorem basename_join {path name : Str} (plain : '/' ∉ name) : basename (path ++ '/' :: name) = name := by
  have kept : ∀ c ∈ name.reverse, (c != '/') = true := by
    intro c member
    simpa using ne_of_mem_of_not_mem (List.mem_reverse.mp member) plain
  rw [basename, List.rtakeWhile, List.reverse_append, List.reverse_cons, List.append_assoc,
    List.takeWhile_append_of_pos kept]
  simp

/-- A last component is read off a path. -/
theorem path_inj {path path' name name' : Str} (plain : '/' ∉ name) (plain' : '/' ∉ name')
    (same : path ++ '/' :: name = path' ++ '/' :: name') : path = path' ∧ name = name' := by
  have names : name = name' :=
    (basename_join plain).symm.trans ((congrArg basename same).trans (basename_join plain'))
  rw [names] at same
  exact ⟨List.append_cancel_right same, names⟩

section Snapshots

variable [Interpreter] {devices : List UsbDevice} {device other : UsbDevice} {name name' key content : Str}

omit [Interpreter] in
theorem isAttribute_of_solid {text : Str} (nonempty : text ≠ []) (solid : ∀ c ∈ text, isSpace c = false) :
    IsAttribute text := ⟨nonempty, stripWhile_of_none solid⟩

omit [Interpreter] in
theorem isAttribute_hex4 {text : Str} (hex : IsHex4 text) : IsAttribute text := by
  have digits : ∀ c ∈ hexDigits, isSpace c = false := by decide
  refine isAttribute_of_solid (List.ne_nil_of_length_pos (by rw [hex.1]; decide)) fun c member => ?_
  exact digits c (by simpa [isHex] using hex.2 c member)

omit [Interpreter] in
theorem isAttribute_format02X (number : Int) : IsAttribute (format02X number) := by
  have digits : ∀ c ∈ upperDigits ++ ['-'], isSpace c = false := by decide
  refine isAttribute_of_solid (List.ne_nil_of_length_pos ?_) fun c member => digits c (mem_format02X number c member)
  have := length_format02X number
  omega

omit [Interpreter] in
theorem Recorded.isAttribute (recorded : Recorded usbDevicesRoot name device) :
    ∀ field ∈ attributes device, ∀ text ∈ field.2, IsAttribute text := by
  have some_ : ∀ {text : Str}, IsAttribute text → ∀ found ∈ some text, IsAttribute found := by
    rintro text isAttribute found same
    exact Option.some.inj same ▸ isAttribute
  simp only [attributes, List.forall_mem_cons]
  exact ⟨some_ (isAttribute_hex4 device.vidHex.1), some_ (isAttribute_hex4 device.pidHex.1),
    some_ (isAttribute_hex4 device.bcdHex.1), some_ (isAttribute_format02X _), some_ (isAttribute_format02X _),
    some_ (isAttribute_format02X _), recorded.manufacturer, recorded.product, recorded.serial,
    fun field absent => (List.not_mem_nil absent).elim⟩

/-- The devices of a bus: each was read from a node, no two share one, and they are in the order
of their nodes. -/
structure Inventory (devices : List UsbDevice) : Prop where
  recorded : ∀ device ∈ devices, ∃ name, Recorded usbDevicesRoot name device
  unique : ∀ device ∈ devices, ∀ other ∈ devices, device.sysfsPath = other.sysfsPath → device = other
  sorted : (devices.map nodeName).Pairwise (· ≤ ·)

omit [Interpreter] in
theorem mem_files_iff : (key, content) ∈ devices.flatMap attributeFiles ↔
    ∃ device ∈ devices, ∃ field ∈ attributes device, ∃ text, field.2 = some text ∧
      device.sysfsPath ++ '/' :: field.1 = key ∧ text ++ ['\n'] = content := by
  simp only [List.mem_flatMap, attributeFiles, List.mem_filterMap, Option.map_eq_some_iff, Prod.mk.injEq]

omit [Interpreter] in
/-- The names of the attributes are components of a path, and none is that of the driver link. -/
theorem attributes_plain : ∀ field ∈ attributes device, '/' ∉ field.1 ∧ field.1 ≠ "driver" := by
  have names : (attributes device).map Prod.fst = (attributes goldenDevice).map Prod.fst := rfl
  intro field member
  have listed := List.mem_map_of_mem (f := Prod.fst) member
  rw [names] at listed
  have plain : ∀ name ∈ (attributes goldenDevice).map Prod.fst, '/' ∉ name ∧ name ≠ "driver" := by decide
  exact plain _ listed

omit [Interpreter] in
theorem attributes_unique {field field' : Str × Option Str} (member : field ∈ attributes device)
    (member' : field' ∈ attributes device) (same : field.1 = field'.1) : field = field' := by
  have distinct : ((attributes device).map Prod.fst).Nodup := by
    change ((attributes goldenDevice).map Prod.fst).Nodup
    decide
  exact List.inj_on_of_nodup_map distinct member member' same

omit [Interpreter] in
/-- Every attribute of a listed device reads as the device has it. -/
theorem readAttr_snapshot (inventory : Inventory devices) (member : device ∈ devices) :
    ∀ field ∈ attributes device, readAttr (snapshot devices) device.sysfsPath field.1 = .ok field.2 := by
  intro field listed
  obtain ⟨name, recorded⟩ := inventory.recorded device member
  -- A file of that path is of this device, and of this attribute.
  have own : ∀ file ∈ devices.flatMap attributeFiles, file.1 = device.sysfsPath ++ '/' :: field.1 →
      ∃ text, field.2 = some text ∧ text ++ ['\n'] = file.2 := by
    intro file inFiles same
    obtain ⟨other, inDevices, field', listed', text, value, key, content⟩ := mem_files_iff.mp inFiles
    obtain ⟨path, attr⟩ := path_inj (attributes_plain field' listed').1 (attributes_plain field listed).1 (key.trans same)
    cases inventory.unique other inDevices device member path
    cases attributes_unique listed' listed attr
    exact ⟨text, value, content⟩
  rw [readAttr]
  cases value : field.2 with
  | none =>
      have absent : (devices.flatMap attributeFiles).find?
          (fun file => file.1 = device.sysfsPath ++ '/' :: field.1) = none := by
        rw [List.find?_eq_none]
        intro file inFiles same
        obtain ⟨text, found, _⟩ := own file inFiles (by simpa using same)
        cases value.symm.trans found
      simp only [snapshot, tableHost, absent]
  | some text =>
      have present : (device.sysfsPath ++ '/' :: field.1, text ++ ['\n']) ∈ devices.flatMap attributeFiles :=
        mem_files_iff.mpr ⟨device, member, field, listed, text, value, rfl, rfl⟩
      have read : (snapshot devices).read (device.sysfsPath ++ '/' :: field.1) = .ok (text ++ ['\n']) := by
        refine @tableHost_read _ [] [] _ _ present fun file inFiles same => ?_
        obtain ⟨text', found, content⟩ := own file inFiles same
        cases value.symm.trans found
        exact content.symm
      have isAttribute := recorded.isAttribute field listed text value
      simp only [read, strip_line isAttribute, if_neg isAttribute.1]

omit [Interpreter] in
theorem nodeName_eq (recorded : Recorded usbDevicesRoot name device) : nodeName device = name := by
  rw [nodeName, recorded.path]
  have split : usbDevicesRoot ++ '/' :: name = (usbDevicesRoot ++ ['/']) ++ name := by simp
  rw [split]
  exact List.drop_left' rfl

theorem sublist_of_mapM {host : Host} {names : List Str} {nodes : List (Option UsbDevice)}
    (mapped : List.Forall₂ (fun name node => enumerateNode host usbDevicesRoot name = .ok node) names nodes) :
    ((nodes.filterMap id).map nodeName).Sublist names := by
  induction mapped with
  | nil => exact List.Sublist.refl _
  | @cons name node names nodes found _ ih =>
      cases node with
      | none => exact ih.cons name
      | some device =>
          have same := nodeName_eq (enumerateNode_recorded found)
          change (nodeName device :: (nodes.filterMap id).map nodeName).Sublist (name :: names)
          rw [same]
          exact ih.cons_cons name

theorem inventory_of_enumerated {host : Host} (listed : enumerateUsbDevices host usbDevicesRoot = .ok devices) :
    Inventory devices := by
  rw [enumerateUsbDevices] at listed
  split at listed
  · rename_i names _
    obtain ⟨nodes, mapped, listed⟩ := bind_ok listed
    cases listed
    have found : ∀ device ∈ nodes.filterMap id,
        ∃ name, enumerateNode host usbDevicesRoot name = .ok (some device) := by
      intro device member
      obtain ⟨node, inNodes, same⟩ := List.mem_filterMap.mp member
      obtain ⟨name, _, read⟩ := mem_mapM mapped inNodes
      exact ⟨name, read.trans (congrArg Except.ok same)⟩
    refine ⟨fun device member => ?_, fun device member other member' same => ?_, ?_⟩
    · obtain ⟨name, read⟩ := found device member
      exact ⟨name, enumerateNode_recorded read⟩
    · obtain ⟨name, read⟩ := found device member
      obtain ⟨name', read'⟩ := found other member'
      have names : name = name' := by
        rw [← nodeName_eq (enumerateNode_recorded read), ← nodeName_eq (enumerateNode_recorded read'), nodeName,
          nodeName, same]
      cases names
      cases read.symm.trans read'
      rfl
    · exact (sortTexts_pairwise names).sublist (sublist_of_mapM (forall₂_of_mapM mapped))
  · cases listed
    exact ⟨fun _ absent => (List.not_mem_nil absent).elim, fun _ absent => (List.not_mem_nil absent).elim, List.Pairwise.nil⟩
  · cases listed

/-- What any host gave, written out as attribute files, is enumerated again. -/
theorem enumerateUsbDevices_snapshot {host : Host} (listed : enumerateUsbDevices host usbDevicesRoot = .ok devices) :
    enumerateUsbDevices (snapshot devices) usbDevicesRoot = .ok devices := by
  have inventory := inventory_of_enumerated listed
  have each : ∀ device ∈ devices, enumerateNode (snapshot devices) usbDevicesRoot (nodeName device) = .ok (some device) := by
    intro device member
    obtain ⟨name, recorded⟩ := inventory.recorded device member
    rw [nodeName_eq recorded]
    refine enumerateNode_of_attributes recorded ?_
    rw [← recorded.path]
    exact readAttr_snapshot inventory member
  have mapped := mapM_map_some each
  have names : (snapshot devices).listdir usbDevicesRoot = .ok (devices.map nodeName) := rfl
  rw [enumerateUsbDevices, names]
  simp only [sortTexts_of_sorted inventory.sorted, mapped]
  refine congrArg Except.ok ?_
  rw [List.filterMap_map]
  exact List.filterMap_some

end Snapshots

end DongleRescue.Usb
