import DongleRescue.Host
import DongleRescue.KnowledgeBase

namespace DongleRescue.Firmware

open DongleRescue.Data DongleRescue.Posix

/-! Firmware resolution pipeline: log line, presence on disk, owning package. -/

def firmwareRoot : Str := "/lib/firmware"

def asciiAlnum : Str := "ABCDEFGHIJKLMNOPQRSTUVWXYZabcdefghijklmnopqrstuvwxyz0123456789"

section Log

variable [Interpreter]

def matchError (text : Str) : Option (Bool × List Nat) :=
  let middle : Str := " failed with error "
  if startsWith text middle then
    match text.drop middle.length with
    | '-' :: digits => if takeDecimal digits = [] then none else some (true, takeDecimal digits)
    | digits => if takeDecimal digits = [] then none else some (false, takeDecimal digits)
  else none

/-- The lazy group: the shortest non-empty name before an end of the message. -/
def matchName : Str → Str → Option (Str × Bool × List Nat)
  | _, [] => none
  | name, c :: rest =>
      if c = '\n' then none
      else match matchError rest with
        | some (negative, digits) => some (name ++ [c], negative, digits)
        | none => matchName (name ++ [c]) rest

def matchFailure (text : Str) : Option (Str × Bool × List Nat) :=
  let opening : Str := "Direct firmware load for "
  if startsWith text opening then matchName [] (text.drop opening.length) else none

/-- Leftmost occurrence of the failure message in a line. -/
def searchFailure : Str → Option (Str × Bool × List Nat)
  | [] => none
  | c :: rest => (matchFailure (c :: rest)).or (searchFailure rest)

def lineFailure (line : Str) : Py (Option (Str × Int)) :=
  match searchFailure line with
  | none => .ok none
  | some (name, negative, digits) => do
      let error ← intOfDecimal negative digits
      return some (name, error)

end Log

structure FirmwareFailure where
  firmwarePath : Str
  error : Int
  lineIndex : Nat
  valid : Bool
  detail : Str

def fwNameValid (name : Str) : Bool :=
  match name with
  | [] => false
  | c :: rest =>
      decide (name.length ≤ 4096) && asciiAlnum.contains c &&
        rest.all (fun d => asciiAlnum.contains d || ("._/-" : Str).contains d) &&
        !contains name ".." && !contains name "//" && !endsWith name "/"

def failuresFrom [Interpreter] : Nat → List Str → Py (List FirmwareFailure)
  | _, [] => .ok []
  | index, line :: rest => do
      let found ← lineFailure line
      let later ← failuresFrom (index + 1) rest
      match found with
      | none => return later
      | some (name, error) =>
          let valid := fwNameValid name
          let detail : Str := if valid then "accepted by firmware name grammar"
            else "rejected by firmware name grammar (untrusted log content)"
          return ⟨name, error, index, valid, detail⟩ :: later

def parseDmesgFirmwareFailures [Interpreter] (lines : List Str) : Py (List FirmwareFailure) :=
  failuresFrom 0 lines

structure PackageMapping where
  chipset : Option Str
  packages : List Str
  confidence : Confidence
  evidence : List Evidence

structure FirmwareStatus where
  module : Str
  normalizedPath : Option Str
  installed : Option Bool
  foundForm : Option Str
  evidence : List Evidence := []
  failures : List FirmwareFailure := []
  mapping : Option PackageMapping := none

def rstripSlashes (path : Str) : Str := path.rdropWhile (· == '/')

/-- Existence with symlink containment; `none` when the host fails. -/
def existsUnderRoot (host : Host) (full root : Str) : Option Bool :=
  match host.exists full with
  | .error _ => none
  | .ok false => some false
  | .ok true =>
      match host.resolveRealpath full with
      | .error _ => none
      | .ok real => some (startsWith real (rstripSlashes root ++ ['/']))

def firmwareForms : List (Str × Str) := [([], "raw"), (".zst", ".zst"), (".xz", ".xz")]

def candidatePath (base canon suffix : Str) : Str := base ++ '/' :: (canon ++ suffix)

/-- The first contained form, and whether a probe before it failed. -/
def probeForms (host : Host) (base canon : Str) : Bool → List (Str × Str) → Option (Str × Str) × Bool
  | indeterminate, [] => (none, indeterminate)
  | indeterminate, (suffix, form) :: rest =>
      match existsUnderRoot host (candidatePath base canon suffix) base with
      | some true => (some (suffix, form), indeterminate)
      | some false => probeForms host base canon indeterminate rest
      | none => probeForms host base canon true rest

def presenceStatus (host : Host) (module canon base : Str) : FirmwareStatus :=
  match probeForms host base canon false firmwareForms with
  | (some (suffix, form), _) => {
      module
      normalizedPath := some canon
      installed := some true
      foundForm := some form
      evidence := [⟨candidatePath base canon suffix,
        canon ++ suffix ++ " present (" ++ form ++ ")"⟩] }
  | (none, true) => {
      module
      normalizedPath := some canon
      installed := none
      foundForm := none
      evidence := [⟨base ++ '/' :: canon,
        "presence could not be determined: host access failed"⟩] }
  | (none, false) => {
      module
      normalizedPath := some canon
      installed := some false
      foundForm := none
      evidence := [⟨base ++ '/' :: canon, "absent"⟩] }

def checkFirmwarePresence [Interpreter] (host : Host) (module relPath root : Str) :
    Py FirmwareStatus :=
  if !fwNameValid relPath then
    .ok {
      module
      normalizedPath := none
      installed := none
      foundForm := none
      evidence := [⟨"<firmware-name-grammar>", "path rejected: " ++ pyRepr relPath⟩] }
  else do
    let canon ← requireFirmwarePath relPath
    return presenceStatus host module canon (rstripSlashes root)

def isPackageName : Str → Bool
  | [] => false
  | c :: rest => asciiAlnum.contains c &&
      rest.all fun d => asciiAlnum.contains d || ("._+-" : Str).contains d

def cleanPkgNames (names : List Json) : List Str :=
  names.filterMap fun
    | .str name => if isPackageName name then some name else none
    | _ => none

/-- An entry owns a path if it declares it, or a file of the same last component. -/
def declares (entry : KbEntry) (relPath : Str) : Bool :=
  entry.firmware.any fun fw => fw = relPath || basename fw = basename relPath

def kbEvidence (entry : KbEntry) : List Evidence :=
  entry.evidence.filterMap fun
    | ⟨some source, some detail⟩ => some ⟨source, detail⟩
    | _ => none

def mapFirmwareToPackages [Interpreter] (kb : Kb) (relPath : Str) : Py PackageMapping :=
  match kb.chipsets.find? fun entry => declares entry relPath with
  | none => .ok ⟨none, [], .unknown, []⟩
  | some entry => do
      let chipset ← entry.name
      let confidence ← entry.level "UNKNOWN"
      return {
        chipset := some chipset
        packages := cleanPkgNames entry.fwPackageDebian
        confidence
        evidence := kbEvidence entry ++ [⟨"data/chipsets.json", relPath ++ " -> " ++ chipset⟩] }

def managerCmd (manager : Str) : Option Str :=
  if manager = "apt" then some "apt-get install"
  else if manager = "dnf" then some "dnf install"
  else if manager = "pacman" then some "pacman -S"
  else none

def managerOrder : List Str := ["apt", "dnf", "pacman"]

def detectPackageManagers (which : Str → Option Str) : List Str :=
  managerOrder.filter fun manager => truthy (which manager)

def buildInstallCommand [Interpreter] (manager : Str) (packages : List Str) : Py Str :=
  match managerCmd manager with
  | none => .error (.valueError ("unsupported package manager: " ++ pyRepr manager))
  | some command =>
      match packages.find? fun package => !isPackageName package with
      | some package => .error (.valueError ("invalid package name: " ++ pyRepr package))
      | none => .ok (command ++ ' ' :: join " " packages)

def recommendFirmwareAction [Interpreter] (st : FirmwareStatus) (managers : List Str) :
    Py RecommendedAction :=
  let path := formatOption st.normalizedPath
  if st.installed = some true then
    .ok {
      kind := "no_action"
      explanation := "Firmware " ++ path ++ " is already present (form: " ++
        formatOption st.foundForm ++ ")."
      evidence := st.evidence }
  else
    let cited := st.evidence ++ ((st.mapping.map (·.evidence)).getD [])
    let chipset := formatOption (st.mapping.bind (·.chipset))
    match (st.mapping.map (·.packages)).getD [] with
    | package :: others => do
        let (commands, explanation) ← match managers with
          | manager :: _ => do
              let command ← buildInstallCommand manager [package]
              let extra : Str := if others = [] then [] else " Alternatives: " ++ join ", " others ++ "."
              pure ([command], "Firmware " ++ path ++ " (chipset " ++ chipset ++
                ") is missing. Install '" ++ package ++ "' via " ++ manager ++
                ", then reload the module." ++ extra)
          | [] =>
              pure ([], "Firmware " ++ path ++ " (chipset " ++ chipset ++
                ") is missing. No package manager detected on this host; install '" ++ package ++
                "' manually from the distribution repository.")
        return {
          kind := "install_firmware_package"
          explanation
          commands
          requiresRoot := true
          networkRequired := true
          evidence := cited }
    | [] =>
        .ok {
          kind := "manual_package_lookup"
          explanation := "The owner of firmware " ++ path ++
            " is unknown to the knowledge base; look it up in the linux-firmware WHENCE index " ++
            "of your distribution. Unknown owners are never guessed."
          evidence := cited }

/-- The failures of a file are those of its name or of its last component. -/
def failuresOf (failures : List FirmwareFailure) (rel : Str) : List FirmwareFailure :=
  failures.filter fun failure =>
    decide (failure.firmwarePath = rel) || decide (basename failure.firmwarePath = basename rel)

/-- Without a knowledge base the packaged one is read. -/
def resolveModuleFirmware [Interpreter] (packaged : Kb) (host : Host) (module : Str)
    (firmwarePaths dmesgLines : List Str) (kb : Option Kb) : Py (List FirmwareStatus) := do
  let failures ← parseDmesgFirmwareFailures dmesgLines
  firmwarePaths.mapM fun rel => do
    let st ← checkFirmwarePresence host module rel firmwareRoot
    let mapping ← mapFirmwareToPackages (kb.getD packaged) rel
    return { st with failures := failuresOf failures rel, mapping := some mapping }

end DongleRescue.Firmware
