import DongleRescue.Data.Json
import DongleRescue.Data.Numerals
import DongleRescue.Data.Python
import DongleRescue.Posix.Path

namespace DongleRescue

open DongleRescue.Data DongleRescue.Posix

/-! Core domain types shared by every module. -/

inductive Confidence where
  | confirmed
  | highConfidence
  | probable
  | possible
  | unknown
deriving DecidableEq

namespace Confidence

def value : Confidence → Str
  | confirmed => "CONFIRMED"
  | highConfidence => "HIGH_CONFIDENCE"
  | probable => "PROBABLE"
  | possible => "POSSIBLE"
  | unknown => "UNKNOWN"

def all : List Confidence := [confirmed, highConfidence, probable, possible, unknown]

def ofValue [Interpreter] (text : Str) : Py Confidence :=
  match all.find? fun level => level.value = text with
  | some level => .ok level
  | none => .error (.valueError (pyRepr text ++ " is not a valid Confidence"))

theorem ofValue_value [Interpreter] (level : Confidence) : ofValue level.value = .ok level := by
  cases level <;> rfl

end Confidence

inductive DiagnosisState where
  | aWorking
  | bIdUnbound
  | cFirmwareMissing
  | dModuleBlocked
  | eNoIntreeDriver
  | unknownDevice
deriving DecidableEq

def DiagnosisState.value : DiagnosisState → Str
  | aWorking => "A"
  | bIdUnbound => "B"
  | cFirmwareMissing => "C"
  | dModuleBlocked => "D"
  | eNoIntreeDriver => "E"
  | unknownDevice => "UNKNOWN"

structure Evidence where
  source : Str
  detail : Str
deriving DecidableEq

def IsHex4 (text : Str) : Prop := text.length = 4 ∧ ∀ c ∈ text, isHex c = true

instance (text : Str) : Decidable (IsHex4 text) := inferInstanceAs (Decidable (_ ∧ _))

/-- Identity of one USB device.  Its ids are four lower-case hexadecimal digits:
the constructor refuses anything else. -/
structure UsbDevice where
  sysfsPath : Str
  vid : Str
  pid : Str
  bcdDevice : Str
  deviceClass : Int
  deviceSubclass : Int
  deviceProtocol : Int
  manufacturer : Option Str
  product : Option Str
  serial : Option Str
  modalias : Option Str
  vidHex : IsHex4 vid ∧ lower vid = vid
  pidHex : IsHex4 pid ∧ lower pid = pid
  bcdHex : IsHex4 bcdDevice ∧ lower bcdDevice = bcdDevice

/-- The check hands its outcome on, as the invariant of a device. -/
def requireHex4 [Interpreter] (value name : Str) : Py (PLift (IsHex4 value)) :=
  if hex : IsHex4 value then .ok ⟨hex⟩
  else .error (.valueError (name ++ " must be exactly 4 hex digits, got " ++ pyRepr value))

theorem IsHex4.upper {text : Str} (hex : IsHex4 text) : IsHex4 (upper text) :=
  ⟨by simp [Data.upper, hex.1], isHex_upper hex.2⟩

theorem IsHex4.lower {text : Str} (hex : IsHex4 text) :
    IsHex4 (lower text) ∧ Data.lower (Data.lower text) = Data.lower text :=
  ⟨⟨by simp [Data.lower, hex.1], isHex_lower hex.2⟩, lower_lower hex.2⟩

namespace UsbDevice

variable [Interpreter]

def init (sysfsPath vid pid bcdDevice : Str) (deviceClass deviceSubclass deviceProtocol : Int)
    (manufacturer product serial modalias : Option Str) : Py UsbDevice := do
  let ⟨vidHex⟩ ← requireHex4 vid "vid"
  let ⟨pidHex⟩ ← requireHex4 pid "pid"
  let ⟨bcdHex⟩ ← requireHex4 bcdDevice "bcd_device"
  return {
    sysfsPath
    vid := lower vid
    pid := lower pid
    bcdDevice := lower bcdDevice
    deviceClass
    deviceSubclass
    deviceProtocol
    manufacturer
    product
    serial
    modalias
    vidHex := vidHex.lower
    pidHex := pidHex.lower
    bcdHex := bcdHex.lower }

end UsbDevice

def UsbDevice.vidPid (device : UsbDevice) : Str := device.vid ++ ':' :: device.pid

def goldenDevice : UsbDevice where
  sysfsPath := "/sys/bus/usb/devices/1-2"
  vid := "0bda"
  pid := "8811"
  bcdDevice := "0200"
  deviceClass := 0
  deviceSubclass := 0
  deviceProtocol := 0
  manufacturer := none
  product := none
  serial := none
  modalias := some "usb:v0BDAp8811d0200dc00dsc00dp00"
  vidHex := by decide
  pidHex := by decide
  bcdHex := by decide

def moduleStartChars : Str := "abcdefghijklmnopqrstuvwxyz0123456789"

def moduleChars : Str := moduleStartChars ++ ['_', '-']

/-- The grammar `[a-z0-9][a-z0-9_-]{0,63}` of kernel module names. -/
def isModuleName : Str → Bool
  | [] => false
  | c :: rest => moduleStartChars.contains c && rest.all moduleChars.contains &&
      decide (rest.length ≤ 63)

def requireModuleName [Interpreter] (value : Str) : Py Str :=
  if isModuleName value then .ok value
  else .error (.valueError ("invalid kernel module name: " ++ pyRepr value))

def requireFirmwarePath [Interpreter] (value : Str) : Py Str :=
  let invalid : PyError := .valueError ("invalid firmware path: " ++ pyRepr value)
  if value = [] ∨ startsWith value "/" ∨ value.contains '\\' then .error invalid
  else
    let norm := normpath value
    if startsWith norm ".." ∨ norm = "." ∨ norm.contains (Char.ofNat 0) then .error invalid
    else if (names norm).any fun part => part = [] ∨ part = ['.'] ∨ part = ['.', '.'] then
      .error invalid
    else .ok norm

structure DriverCandidate where
  module : Str
  source : Str
  confidence : Confidence
  evidence : List Evidence

structure FirmwareRequirement where
  module : Str
  firmwarePath : Str
  installed : Option Bool
  evidence : List Evidence

structure ChipsetId where
  chipset : Str
  family : Str
  confidence : Confidence
  revisionNote : Option Str
  evidence : List Evidence

structure RecommendedAction where
  kind : Str
  explanation : Str
  commands : List Str := []
  requiresRoot : Bool := false
  networkRequired : Bool := false
  safeForAutomation : Bool := false
  evidence : List Evidence := []

structure Diagnosis where
  device : UsbDevice
  identification : ChipsetId
  driverCandidates : List DriverCandidate
  firmware : List FirmwareRequirement
  state : DiagnosisState
  confidence : Confidence
  recommendedAction : RecommendedAction
  evidence : List Evidence

/-- A repair transaction; a record read back from disk may hold any JSON. -/
structure TransactionRecord where
  transactionId : Json
  beforeState : Json
  change : Json
  afterState : Json
  rollbackAction : Json

def TransactionRecord.toDict (rec : TransactionRecord) : Json :=
  .dict [("transaction_id", rec.transactionId), ("before_state", rec.beforeState),
    ("change", rec.change), ("after_state", rec.afterState), ("rollback_action", rec.rollbackAction)]

def jsonOf : Option Str → Json
  | none => .null
  | some text => .str text

def Evidence.toDict (evidence : Evidence) : Json :=
  .dict [("source", .str evidence.source), ("detail", .str evidence.detail)]

def evidenceList (evidence : List Evidence) : Json := .list (evidence.map Evidence.toDict)

def UsbDevice.toDict (device : UsbDevice) : Json :=
  .dict [("sysfs_path", .str device.sysfsPath), ("vid", .str device.vid), ("pid", .str device.pid),
    ("bcd_device", .str device.bcdDevice), ("b_device_class", .int device.deviceClass),
    ("b_device_subclass", .int device.deviceSubclass), ("b_device_protocol", .int device.deviceProtocol),
    ("manufacturer", jsonOf device.manufacturer), ("product", jsonOf device.product),
    ("serial", jsonOf device.serial), ("modalias", jsonOf device.modalias)]

def ChipsetId.toDict (chipsetId : ChipsetId) : Json :=
  .dict [("chipset", .str chipsetId.chipset), ("family", .str chipsetId.family),
    ("confidence", .str chipsetId.confidence.value), ("revision_note", jsonOf chipsetId.revisionNote),
    ("evidence", evidenceList chipsetId.evidence)]

def DriverCandidate.toDict (candidate : DriverCandidate) : Json :=
  .dict [("module", .str candidate.module), ("source", .str candidate.source),
    ("confidence", .str candidate.confidence.value), ("evidence", evidenceList candidate.evidence)]

def FirmwareRequirement.toDict (requirement : FirmwareRequirement) : Json :=
  .dict [("module", .str requirement.module), ("firmware_path", .str requirement.firmwarePath),
    ("installed", (requirement.installed.map Json.bool).getD .null),
    ("evidence", evidenceList requirement.evidence)]

def RecommendedAction.toDict (action : RecommendedAction) : Json :=
  .dict [("kind", .str action.kind), ("explanation", .str action.explanation),
    ("commands", .list (action.commands.map Json.str)), ("requires_root", .bool action.requiresRoot),
    ("network_required", .bool action.networkRequired),
    ("safe_for_automation", .bool action.safeForAutomation), ("evidence", evidenceList action.evidence)]

def schemaVersion : Int := 1

/-- The fields of `Diagnosis.to_dict`, to which the command line adds one. -/
def Diagnosis.items (diagnosis : Diagnosis) : List (Str × Json) :=
  [("schema_version", .int schemaVersion), ("device", diagnosis.device.toDict),
    ("identification", diagnosis.identification.toDict), ("evidence", evidenceList diagnosis.evidence),
    ("driver_candidates", .list (diagnosis.driverCandidates.map DriverCandidate.toDict)),
    ("firmware", .list (diagnosis.firmware.map FirmwareRequirement.toDict)),
    ("diagnosis", .dict [("state", .str diagnosis.state.value),
      ("confidence", .str diagnosis.confidence.value)]),
    ("recommended_action", diagnosis.recommendedAction.toDict)]

theorem requireModuleName_ok [Interpreter] {value module : Str}
    (accepted : requireModuleName value = .ok module) :
    module = value ∧ isModuleName value = true := by
  rw [requireModuleName] at accepted
  split at accepted
  · rename_i valid
    cases accepted
    exact ⟨rfl, valid⟩
  · cases accepted

theorem isModuleName_ne_nil {module : Str} (valid : isModuleName module = true) : module ≠ [] := by
  intro empty
  simp [empty, isModuleName] at valid

theorem isModuleName_chars {module : Str} (valid : isModuleName module = true) :
    ∀ c ∈ module, c ∈ moduleChars := by
  match module with
  | [] => simp
  | first :: rest =>
      simp only [isModuleName, Bool.and_eq_true, List.contains_iff_mem, List.all_eq_true,
        decide_eq_true_eq] at valid
      obtain ⟨⟨firstOk, restOk⟩, _⟩ := valid
      intro c member
      rcases List.mem_cons.mp member with same | later
      · subst c
        exact List.mem_append_left _ firstOk
      · exact restOk c later

end DongleRescue
