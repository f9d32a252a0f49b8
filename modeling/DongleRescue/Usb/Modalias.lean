import DongleRescue.Linux.Grammar
import DongleRescue.Usb.Enumeration

namespace DongleRescue.Usb

open DongleRescue.Data DongleRescue.Linux

/-! Modaliases of enumerated devices and of their interfaces, as texts of the
modalias grammar. -/

structure InterfaceBytes where
  ic : Str
  isc : Str
  ip : Str
  «in» : Str
  icHex : IsHexOf 2 ic
  iscHex : IsHexOf 2 isc
  ipHex : IsHexOf 2 ip
  inHex : IsHexOf 2 «in»

namespace InterfaceBytes

def values (bytes : InterfaceBytes) : List Str := [bytes.ic, bytes.isc, bytes.ip, bytes.in]

def suffix (bytes : InterfaceBytes) : Str :=
  "ic" ++ bytes.ic ++ "isc" ++ bytes.isc ++ "ip" ++ bytes.ip ++ "in" ++ bytes.in

end InterfaceBytes

def vendorBytes : InterfaceBytes where
  ic := "FF"
  isc := "FF"
  ip := "FF"
  «in» := "00"
  icHex := by decide
  iscHex := by decide
  ipHex := by decide
  inHex := by decide

def extendModalias (device : UsbDevice) (bytes : InterfaceBytes) : Str :=
  device.modalias.getD [] ++ bytes.suffix

def deviceValues (device : UsbDevice) : List Str :=
  [upper device.vid, upper device.pid, upper device.bcdDevice, format02X device.deviceClass,
    format02X device.deviceSubclass, format02X device.deviceProtocol]

def interfaceValues (level : Option InterfaceBytes) : List Str :=
  (level.map InterfaceBytes.values).getD []

def modaliasText (device : UsbDevice) (level : Option InterfaceBytes) : Str :=
  "usb:" ++ spelled fieldSpecs (deviceValues device ++ interfaceValues level)

/-- The class numbers are bytes, as descriptors hold them. -/
def ClassBytes (device : UsbDevice) : Prop :=
  (0 ≤ device.deviceClass ∧ device.deviceClass ≤ 255) ∧
    (0 ≤ device.deviceSubclass ∧ device.deviceSubclass ≤ 255) ∧
    (0 ≤ device.deviceProtocol ∧ device.deviceProtocol ≤ 255)

instance (device : UsbDevice) : Decidable (ClassBytes device) :=
  inferInstanceAs (Decidable (_ ∧ _ ∧ _))

section Texts

variable {device : UsbDevice} {bytes : InterfaceBytes} {level : Option InterfaceBytes}

theorem Enumerated.modalias_eq (enumerated : Enumerated device) :
    device.modalias.getD [] = modaliasText device none := by
  rw [enumerated, Option.getD_some]
  unfold buildDeviceModalias modaliasText deviceValues interfaceValues
  simp [fieldSpecs, spelled]

theorem Enumerated.extendModalias_eq (enumerated : Enumerated device) :
    extendModalias device bytes = modaliasText device (some bytes) := by
  rw [extendModalias]
  rw [enumerated, Option.getD_some]
  unfold buildDeviceModalias modaliasText deviceValues InterfaceBytes.suffix interfaceValues
    InterfaceBytes.values
  simp [fieldSpecs, spelled]

def interfaceSpecs : List (Str × Nat) := [("ic", 2), ("isc", 2), ("ip", 2), ("in", 2)]

def interfaceGroups : List (Str × Bool) := [("ic", true), ("isc", true), ("ip", true), ("in", true)]

private theorem readGroups_interface :
    readGroups interfaceGroups (spelled interfaceSpecs (interfaceValues level)) = [] := by
  cases level with
  | none => exact readGroups_skip (by decide)
  | some bytes =>
      have text : spelled interfaceSpecs bytes.values =
          "ic".toList ++ (bytes.ic ++ ("isc".toList ++ (bytes.isc ++ ("ip".toList ++
            (bytes.ip ++ ("in".toList ++ (bytes.in ++ []))))))) := rfl
      have groups : interfaceGroups =
          [("ic".toList, true), ("isc".toList, true), ("ip".toList, true), ("in".toList, true)] := rfl
      have values : interfaceValues (some bytes) = bytes.values := rfl
      rw [values, text, groups, readGroups_read bytes.icHex, readGroups_read bytes.iscHex,
        readGroups_read bytes.ipHex, readGroups_read bytes.inHex]
      rfl

/-- Interface values do not matter to acceptance; the class numbers decide. -/
theorem modaliasOk_iff : modaliasOk (modaliasText device level) = true ↔ ClassBytes device := by
  have text : modaliasText device level =
      "usb:v".toList ++ (upper device.vid ++ ("p".toList ++ (upper device.pid ++ ("d".toList ++
        (upper device.bcdDevice ++ ("dc".toList ++ (format02X device.deviceClass ++ ("dsc".toList ++
          (format02X device.deviceSubclass ++ ("dp".toList ++ (format02X device.deviceProtocol ++
            spelled interfaceSpecs (interfaceValues level)))))))))))) := rfl
  have groups : optionalGroups =
      ("dc".toList, false) :: ("dsc".toList, false) :: ("dp".toList, false) :: interfaceGroups := rfl
  rw [modaliasOk]
  rw [text, requiredGroup_read (IsHexOf.upper device.vidHex.1), Option.bind_some,
    requiredGroup_read (IsHexOf.upper device.pidHex.1), Option.bind_some,
    requiredGroup_read (IsHexOf.upper device.bcdHex.1), decide_eq_true_eq]
  rw [groups, readGroups_numeral (isNumeral_format02X _) (by decide) (by decide) (by decide) (by decide),
    readGroups_numeral (isNumeral_format02X _) (by decide) (by decide) (by decide) (by decide),
    readGroups_numeral (isNumeral_format02X _) (by decide) (by decide) (by decide) (by decide)]
  unfold ClassBytes IsHexOf
  rw [format02X_two_digits_iff, format02X_two_digits_iff, format02X_two_digits_iff]
  simp [readGroups_interface]

private def valueChars : Str := hexDigits ++ ['-']

private theorem mem_hexValue {value : Str} (hex : ∀ c ∈ value, isHex c = true) :
    ∀ c ∈ value, c ∈ valueChars :=
  forall_of_isHex hex fun _ member => List.mem_append_left _ member

private theorem mem_deviceValues : ∀ value ∈ deviceValues device, ∀ c ∈ value, c ∈ valueChars := by
  have digits : ∀ c ∈ upperDigits ++ ['-'], c ∈ valueChars := by decide
  have id : ∀ text : Str, IsHex4 text → ∀ c ∈ upper text, c ∈ valueChars :=
    fun text hex => mem_hexValue (isHex_upper hex.2)
  have number : ∀ n : Int, ∀ c ∈ format02X n, c ∈ valueChars :=
    fun n c member => digits c (mem_format02X n c member)
  rw [deviceValues]
  simp only [List.forall_mem_cons]
  exact ⟨id _ device.vidHex.1, id _ device.pidHex.1, id _ device.bcdHex.1, number _, number _,
    number _, List.forall_mem_nil _⟩

private theorem mem_interfaceValues :
    ∀ value ∈ interfaceValues level, ∀ c ∈ value, c ∈ valueChars := by
  cases level with
  | none => exact List.forall_mem_nil _
  | some bytes =>
      change ∀ value ∈ [bytes.ic, bytes.isc, bytes.ip, bytes.in], ∀ c ∈ value, c ∈ valueChars
      simp only [List.forall_mem_cons]
      exact ⟨mem_hexValue bytes.icHex.2, mem_hexValue bytes.iscHex.2, mem_hexValue bytes.ipHex.2,
        mem_hexValue bytes.inHex.2, List.forall_mem_nil _⟩

theorem strip_modaliasText : strip (modaliasText device level) = modaliasText device level := by
  have visible : ∀ c ∈ valueChars, isSpace c = false := by decide
  have values : ∀ value ∈ deviceValues device ++ interfaceValues level, ∀ c ∈ value,
      isSpace c = false := by
    intro value member c inValue
    rcases List.mem_append.mp member with ours | theirs
    · exact visible c (mem_deviceValues value ours c inValue)
    · exact visible c (mem_interfaceValues value theirs c inValue)
  refine stripWhile_of_none (List.forall_mem_append.mpr ⟨by decide, ?_⟩)
  exact forall_mem_spelled (by decide) values

def modaliasFields (device : UsbDevice) (level : Option InterfaceBytes) : List (Str × Str) :=
  fieldNames.zip ((deviceValues device ++ interfaceValues level).map upper)

def interfaceNames : List Str := ["ic", "isc", "ip", "in"]

def interfaceFields (bytes : InterfaceBytes) : List (Str × Str) :=
  interfaceNames.zip (bytes.values.map upper)

theorem modaliasFields_interface :
    modaliasFields device (some bytes) = modaliasFields device none ++ interfaceFields bytes := rfl

theorem known_device_eq_none_iff {name : FieldName} :
    known (modaliasFields device none) name = none ↔ name.1 ∈ interfaceNames := by
  have split : ∀ other ∈ fieldNames, other ∉ fieldNames.take 6 ↔ other ∈ interfaceNames := by decide
  have names : (modaliasFields device none).map Prod.fst = fieldNames.take 6 := rfl
  rw [known_eq_none_iff, names]
  exact split name.1 name.2

private theorem fits (classBytes : ClassBytes device) :
    Fits fieldSpecs (deviceValues device ++ interfaceValues level) := by
  obtain ⟨dc, dsc, dp⟩ := classBytes
  have interface : Fits interfaceSpecs (interfaceValues level) := by
    cases level with
    | none => exact trivial
    | some bytes =>
        exact ⟨⟨by decide, bytes.icHex⟩, ⟨by decide, bytes.iscHex⟩, ⟨by decide, bytes.ipHex⟩,
          ⟨by decide, bytes.inHex⟩, trivial⟩
  exact ⟨⟨by decide, IsHexOf.upper device.vidHex.1⟩, ⟨by decide, IsHexOf.upper device.pidHex.1⟩,
    ⟨by decide, IsHexOf.upper device.bcdHex.1⟩, ⟨by decide, format02X_two_digits_iff.mpr dc⟩,
    ⟨by decide, format02X_two_digits_iff.mpr dsc⟩, ⟨by decide, format02X_two_digits_iff.mpr dp⟩,
    interface⟩

theorem parseBody_modaliasText (classBytes : ClassBytes device) :
    parseBody ((upper (modaliasText device level)).drop 4) = some (modaliasFields device level) := by
  have body : (upper (modaliasText device level)).drop 4 =
      upper (spelled fieldSpecs (deviceValues device ++ interfaceValues level)) := rfl
  have first : upper (spelled fieldSpecs (deviceValues device ++ interfaceValues level)) ≠ ['*'] := by
    intro same
    exact absurd (List.head_eq_of_cons_eq same) (by decide)
  rw [body, parseBody, if_neg first]
  exact parseFields_spelled (by decide) (fits classBytes)

theorem matchWithLines_modaliasText_of_not (wide : ¬ ClassBytes device) (items : List AliasItem) :
    matchWithLines (modaliasText device level) items = [] := by
  unfold matchWithLines sanitizeModalias
  simp only [strip_modaliasText, if_neg (modaliasOk_iff.not.mpr wide)]

theorem matchWithLines_modaliasText (classBytes : ClassBytes device) (items : List AliasItem) :
    matchWithLines (modaliasText device level) items =
      (asRows items).filter fun row =>
        patternMatches row.pattern (upper (modaliasText device level)) := by
  unfold matchWithLines sanitizeModalias
  simp only [strip_modaliasText, if_pos (modaliasOk_iff.mpr classBytes)]

/-- The pattern asks for no value that only an interface knows. -/
def InterfaceFree (pattern : Str) : Prop :=
  ∀ fields, parseBody (pattern.drop 4) = some fields →
    ∀ name : FieldName, name.1 ∈ interfaceNames → asked fields name = none

/-- The rows that claim the device are those of its interface that are free of
the interface. -/
theorem mem_device_matches_iff {items : List AliasItem} {row : AliasLine} :
    row ∈ matchWithLines (modaliasText device none) items ↔
      row ∈ matchWithLines (modaliasText device (some bytes)) items ∧ InterfaceFree row.pattern := by
  by_cases classBytes : ClassBytes device
  · have longer : parseBody ((upper (modaliasText device (some bytes))).drop 4) =
        some (modaliasFields device none ++ interfaceFields bytes) := by
      rw [← modaliasFields_interface]
      exact parseBody_modaliasText classBytes
    rw [matchWithLines_modaliasText classBytes, matchWithLines_modaliasText classBytes,
      List.mem_filter, List.mem_filter, and_assoc,
      patternMatches_shorter_iff (parseBody_modaliasText classBytes) longer]
    rw [InterfaceFree]
    simp only [known_device_eq_none_iff]
  · rw [matchWithLines_modaliasText_of_not classBytes, matchWithLines_modaliasText_of_not classBytes]
    simp

end Texts

end DongleRescue.Usb
