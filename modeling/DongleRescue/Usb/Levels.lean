import DongleRescue.Linux.Globs
import DongleRescue.Usb.Modalias

namespace DongleRescue.Usb

open DongleRescue.Data DongleRescue.Linux

/-! Matching on the level of the device and on the level of its interfaces. -/

/-- The six device fields with concrete values, and nothing more. -/
def IsDeviceModalias (text : Str) : Prop :=
  ∃ values, List.Forall₂ (fun spec value => IsHexOf spec.2 value) (fieldSpecs.take 6) values ∧
    text = usbText values

/-- The same value in all four fields of the interface. -/
def uniformBytes (value : Str) (hex : IsHexOf 2 value) : InterfaceBytes where
  ic := value
  isc := value
  ip := value
  «in» := value
  icHex := hex
  iscHex := hex
  ipHex := hex
  inHex := hex

def deviceFields (values : List Str) : List (Str × Str) := fieldNames.zip (values.map upper)

section Levels

variable {values : List Str} {pattern : Str}

theorem InterfaceBytes.suffix_eq (bytes : InterfaceBytes) :
    bytes.suffix = spelled (fieldSpecs.drop 6) bytes.values := by
  unfold InterfaceBytes.suffix InterfaceBytes.values
  simp [fieldSpecs, spelled]

theorem usbText_suffix (six : values.length = 6) (bytes : InterfaceBytes) :
    usbText values ++ bytes.suffix = usbText (values ++ bytes.values) := by
  have short : values.length ≤ fieldSpecs.length := by
    rw [six]
    decide
  rw [usbText, usbText, spelled_append short, six, bytes.suffix_eq, List.append_assoc]

section Concrete

variable
  (hex : List.Forall₂ (fun spec value => IsHexOf spec.2 value) (fieldSpecs.take 6) values)

include hex

theorem fits_interface (bytes : InterfaceBytes) : Fits fieldSpecs (values ++ bytes.values) := by
  refine Fits.of_forall₂ (by decide) ?_
  exact List.rel_append hex
    (.cons bytes.icHex (.cons bytes.iscHex (.cons bytes.ipHex (.cons bytes.inHex .nil))))

theorem fits_device : Fits fieldSpecs values := (fits_interface hex vendorBytes).of_append

theorem parseBody_interface (bytes : InterfaceBytes) :
    parseBody ((upper (usbText (values ++ bytes.values))).drop 4) =
      some (deviceFields values ++ interfaceFields bytes) := by
  rw [parseBody_usbText (fits_interface hex bytes)]
  match values, hex.length_eq with
  | [_, _, _, _, _, _], _ => rfl

theorem deviceFields_eq_none_iff {name : FieldName} :
    known (deviceFields values) name = none ↔ name.1 ∈ interfaceNames := by
  have split : ∀ other ∈ fieldNames, other ∉ fieldNames.take 6 ↔ other ∈ interfaceNames := by decide
  have names : (deviceFields values).map Prod.fst = fieldNames.take 6 := by
    match values, hex.length_eq with
    | [_, _, _, _, _, _], _ => rfl
  rw [known_eq_none_iff, names]
  exact split name.1 name.2

/-- A row that claims every interface asks for no field of theirs: two interfaces with
no byte in common would disagree on it. -/
theorem patternMatches_device_iff :
    patternMatches pattern (upper (usbText values)) = true ↔
      ∀ bytes : InterfaceBytes,
        patternMatches pattern (upper (usbText (values ++ bytes.values))) = true := by
  constructor
  · intro claims bytes
    exact ((patternMatches_shorter_iff (parseBody_usbText (fits_device hex))
      (parseBody_interface hex bytes)).mp claims).1
  · intro all
    have zeros := all (uniformBytes "00" (by decide))
    have ones := all (uniformBytes "01" (by decide))
    rw [patternMatches_iff, parseBody_interface hex] at zeros ones
    obtain ⟨usb, long, asks, _, read, knows, zerosEntail⟩ := zeros
    obtain ⟨_, _, asks', _, read', knows', onesEntail⟩ := ones
    cases read.symm.trans read'
    cases knows
    cases knows'
    rw [known_append] at zerosEntail onesEntail
    have apart : ∀ name : FieldName, known (deviceFields values) name = none →
        known (interfaceFields (uniformBytes "00" (by decide))) name ≠
          known (interfaceFields (uniformBytes "01" (by decide))) name := by
      have differ : ∀ name ∈ interfaceNames,
          fieldValue (interfaceFields (uniformBytes "00" (by decide))) name ≠
            fieldValue (interfaceFields (uniformBytes "01" (by decide))) name := by decide
      exact fun name unknown => differ name.1 ((deviceFields_eq_none_iff hex).mp unknown)
    exact patternMatches_iff.mpr ⟨usb, long, asks, _, read, parseBody_usbText (fits_device hex),
      Facts.entails_of_apart zerosEntail onesEntail apart⟩

end Concrete

open Classical in
/-- What is claimed on the level of the device is what is claimed on the level of its
interfaces, whichever they are. -/
theorem matchWithLines_device_eq {device : Str} (concrete : IsDeviceModalias device)
    (items : List AliasItem) :
    matchWithLines device items = (asRows items).filter fun row =>
      decide (∀ bytes : InterfaceBytes, row ∈ matchWithLines (device ++ bytes.suffix) items) := by
  obtain ⟨values, hex, text⟩ := concrete
  have six : values.length = 6 := hex.length_eq.symm
  have long : ∀ more : List Str, 3 ≤ (values ++ more).length := by
    intro more
    rw [List.length_append, six]
    omega
  have device : matchWithLines (usbText values) items = _ :=
    matchWithLines_usbText (fits_device hex) (by simpa using long []) items
  rw [text, device]
  apply List.filter_congr
  intro row member
  rw [Bool.eq_iff_iff, decide_eq_true_eq, patternMatches_device_iff hex]
  apply forall_congr'
  intro bytes
  rw [usbText_suffix six, matchWithLines_usbText (fits_interface hex bytes) (long _), List.mem_filter]
  exact (and_iff_right member).symm

theorem matchWithLines_golden_device :
    let items : List AliasItem := [.text "alias usb:v148Fp760Ad*dc*dsc*dp*icFFisc*ip*in* mt7601u",
      .text "alias usb:v148Fp760Ad*dc*dsc*dp*ic*isc*ip*in* mt76x0u"]
    (matchWithLines "usb:v148Fp760ad0001dc00dsc00dp00" items).map (·.module) = ["mt76x0u".toList] ∧
      ∀ row ∈ matchWithLines "usb:v148Fp760ad0001dc00dsc00dp00" items, ∀ bytes : InterfaceBytes,
        row ∈ matchWithLines ("usb:v148Fp760ad0001dc00dsc00dp00" ++ bytes.suffix) items := by
  classical
  refine ⟨by decide +kernel, fun row member => ?_⟩
  have concrete : IsDeviceModalias "usb:v148Fp760ad0001dc00dsc00dp00" :=
    ⟨["148F", "760a", "0001", "00", "00", "00"], by decide +kernel, by decide +kernel⟩
  rw [matchWithLines_device_eq concrete, List.mem_filter, decide_eq_true_eq] at member
  exact member.2

end Levels

end DongleRescue.Usb
