import DongleRescue.Usb.Modalias

namespace DongleRescue.Usb

open DongleRescue.Data DongleRescue.Linux

/-! The modalias of a device against the reader of modaliases: building and parsing
are inverse. -/

/-- What a device descriptor gives to its modalias. -/
structure DescriptorValues where
  vid : Str
  pid : Str
  bcdDevice : Str
  deviceClass : Int
  deviceSubclass : Int
  deviceProtocol : Int
  vidHex : IsHex4 vid
  pidHex : IsHex4 pid
  bcdHex : IsHex4 bcdDevice
  classByte : 0 ≤ deviceClass ∧ deviceClass ≤ 255
  subclassByte : 0 ≤ deviceSubclass ∧ deviceSubclass ≤ 255
  protocolByte : 0 ≤ deviceProtocol ∧ deviceProtocol ≤ 255

namespace DescriptorValues

def modalias (values : DescriptorValues) : Str :=
  buildDeviceModalias values.vid values.pid values.bcdDevice values.deviceClass
    values.deviceSubclass values.deviceProtocol

/-- The six values, in upper case and padded to their width. -/
def texts (values : DescriptorValues) : List Str :=
  [upper values.vid, upper values.pid, upper values.bcdDevice, format02X values.deviceClass,
    format02X values.deviceSubclass, format02X values.deviceProtocol]

def fields (values : DescriptorValues) : List (Str × Str) :=
  [("v", upper values.vid), ("p", upper values.pid), ("d", upper values.bcdDevice),
    ("dc", format02X values.deviceClass), ("dsc", format02X values.deviceSubclass),
    ("dp", format02X values.deviceProtocol)]

/-- The ids agree up to the case of their digits. -/
structure Agrees (first second : DescriptorValues) : Prop where
  vid : upper first.vid = upper second.vid
  pid : upper first.pid = upper second.pid
  bcdDevice : upper first.bcdDevice = upper second.bcdDevice
  deviceClass : first.deviceClass = second.deviceClass
  deviceSubclass : first.deviceSubclass = second.deviceSubclass
  deviceProtocol : first.deviceProtocol = second.deviceProtocol

section Inverse

variable {values first second : DescriptorValues}

theorem fits_texts : Fits fieldSpecs values.texts :=
  ⟨⟨by decide, values.vidHex.upper⟩, ⟨by decide, values.pidHex.upper⟩, ⟨by decide, values.bcdHex.upper⟩,
    ⟨by decide, format02X_two_digits_iff.mpr values.classByte⟩,
    ⟨by decide, format02X_two_digits_iff.mpr values.subclassByte⟩,
    ⟨by decide, format02X_two_digits_iff.mpr values.protocolByte⟩, trivial⟩

theorem modalias_eq : values.modalias = usbText values.texts := by
  unfold modalias buildDeviceModalias usbText texts
  simp [fieldSpecs, spelled]

theorem upper_format02X {number : Int} (byte : 0 ≤ number ∧ number ≤ 255) :
    upper (format02X number) = format02X number := by
  have fixed : ∀ c ∈ upperDigits, c.toUpper = c := by decide
  obtain ⟨n, rfl⟩ := Int.eq_ofNat_of_zero_le byte.1
  exact (List.map_congr_left fun c member => fixed c (mem_format02X_ofNat n c member)).trans (List.map_id _)

theorem upper_texts : values.texts.map upper = values.texts := by
  simp only [texts, List.map_cons, List.map_nil, upper_upper values.vidHex.2, upper_upper values.pidHex.2,
    upper_upper values.bcdHex.2, upper_format02X values.classByte, upper_format02X values.subclassByte,
    upper_format02X values.protocolByte]

theorem sanitizeModalias_modalias : sanitizeModalias values.modalias = some (upper values.modalias) := by
  have three : 3 ≤ values.texts.length := Nat.le_add_left 3 3
  have ok : modaliasOk (usbText values.texts) = true := modaliasOk_usbText fits_texts three
  rw [modalias_eq, sanitizeModalias]
  simp only [strip_usbText fits_texts, ok, if_true]

theorem parseBody_modalias : parseBody ((upper values.modalias).drop 4) = some values.fields := by
  rw [modalias_eq, parseBody_usbText fits_texts, upper_texts]
  rfl

/-- Equal texts are read alike, so they were built from the same values. -/
theorem modalias_eq_iff : first.modalias = second.modalias ↔ Agrees first second := by
  constructor
  · intro same
    have read : some first.fields = parseBody ((upper first.modalias).drop 4) :=
      parseBody_modalias.symm
    rw [same, parseBody_modalias, Option.some.injEq] at read
    simp only [fields, List.cons.injEq, Prod.mk.injEq, true_and, and_true] at read
    obtain ⟨vid, pid, bcdDevice, dc, dsc, dp⟩ := read
    exact ⟨vid, pid, bcdDevice, format02X_injective first.classByte.1 second.classByte.1 dc,
      format02X_injective first.subclassByte.1 second.subclassByte.1 dsc,
      format02X_injective first.protocolByte.1 second.protocolByte.1 dp⟩
  · intro agrees
    unfold modalias buildDeviceModalias
    rw [agrees.vid, agrees.pid, agrees.bcdDevice, agrees.deviceClass, agrees.deviceSubclass,
      agrees.deviceProtocol]

end Inverse

/-- The reader takes a built modalias apart into the values it was built from, and nothing
else; so the text tells devices apart that differ in one of them. -/
theorem buildDeviceModalias_inverse (first second : DescriptorValues) :
    (∃ normalized, sanitizeModalias first.modalias = some normalized ∧
      parseBody (normalized.drop 4) = some first.fields) ∧
    (first.modalias = second.modalias ↔ first.Agrees second) :=
  ⟨⟨_, sanitizeModalias_modalias, parseBody_modalias⟩, modalias_eq_iff⟩

/-- The descriptor of a device, whose class numbers are bytes. -/
def ofDevice (device : UsbDevice) (classBytes : ClassBytes device) : DescriptorValues where
  vid := device.vid
  pid := device.pid
  bcdDevice := device.bcdDevice
  deviceClass := device.deviceClass
  deviceSubclass := device.deviceSubclass
  deviceProtocol := device.deviceProtocol
  vidHex := device.vidHex.1
  pidHex := device.pidHex.1
  bcdHex := device.bcdHex.1
  classByte := classBytes.1
  subclassByte := classBytes.2.1
  protocolByte := classBytes.2.2

end DescriptorValues

/-- The ids of devices are in lower case, so there they agree as texts. -/
theorem Enumerated.modalias_eq_iff {first second : UsbDevice} (enumerated : Enumerated first)
    (enumerated' : Enumerated second) (classBytes : ClassBytes first) (classBytes' : ClassBytes second) :
    first.modalias = second.modalias ↔
      first.vid = second.vid ∧ first.pid = second.pid ∧ first.bcdDevice = second.bcdDevice ∧
        first.deviceClass = second.deviceClass ∧ first.deviceSubclass = second.deviceSubclass ∧
        first.deviceProtocol = second.deviceProtocol := by
  have lowered : ∀ {text text' : Str}, IsHex4 text ∧ lower text = text → IsHex4 text' ∧ lower text' = text' →
      upper text = upper text' → text = text' := by
    intro text text' ⟨hex, plain⟩ ⟨hex', plain'⟩ same
    rw [← plain, ← lower_upper hex.2, same, lower_upper hex'.2, plain']
  let values := DescriptorValues.ofDevice first classBytes
  let values' := DescriptorValues.ofDevice second classBytes'
  have built : first.modalias = some values.modalias := enumerated
  have built' : second.modalias = some values'.modalias := enumerated'
  rw [built, built', Option.some_inj, DescriptorValues.modalias_eq_iff]
  constructor
  · intro agrees
    exact ⟨lowered first.vidHex second.vidHex agrees.vid, lowered first.pidHex second.pidHex agrees.pid,
      lowered first.bcdHex second.bcdHex agrees.bcdDevice, agrees.deviceClass, agrees.deviceSubclass,
      agrees.deviceProtocol⟩
  · intro ⟨vid, pid, bcdDevice, dc, dsc, dp⟩
    exact ⟨congrArg upper vid, congrArg upper pid, congrArg upper bcdDevice, dc, dsc, dp⟩

end DongleRescue.Usb
