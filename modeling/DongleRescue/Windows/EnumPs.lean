import DongleRescue.Data.Python
import DongleRescue.Linux.ModulesAlias

namespace DongleRescue.Windows

open DongleRescue.Data

def isInstanceIdChar (c : Char) : Bool := c.isAlphanum || ("\\&_.-" : Str).contains c

/-- `^[A-Za-z0-9\\&_.\-]+$`, where `$` is also before a final line feed. -/
def instanceIdOk (text : Str) : Bool :=
  let (run, rest) := text.span isInstanceIdChar
  run ≠ [] && (rest = [] || rest = ['\n'])

/-- The text with every `\"` taken out, from left to right. -/
def removeEscapedQuotes : Str → Str
  | '\\' :: '"' :: rest => removeEscapedQuotes rest
  | c :: rest => c :: removeEscapedQuotes rest
  | [] => []

/-- `USB\\VID_[0-9A-Fa-f]{4}&PID_[0-9A-Fa-f]{4}(\\[^\s]+)?` as a whole text -/
def isUsbInstanceId (text : Str) : Bool :=
  match (Linux.requiredGroup "USB\\VID_" 4 text).bind (Linux.requiredGroup "&PID_" 4) with
  | none => false
  | some [] => true
  | some (c :: suffix) => c = '\\' && suffix ≠ [] && suffix.all (!isSpace ·)

def enumDevicesCmd : Str := "pnputil /enum-devices /connected /deviceids"

def buildPnputilEnumDevicesCmd : Option Str → Py Str
  | none => .ok enumDevicesCmd
  | some instanceId =>
      if !instanceIdOk instanceId || instanceId.contains '\n' ||
          (removeEscapedQuotes instanceId).contains '"' then
        .error (.valueError "invalid instance id")
      else if ("\"&|<>%!$" : Str).any (instanceId.contains ·) && !isUsbInstanceId instanceId then
        .error (.valueError "invalid instance id")
      else .ok (enumDevicesCmd ++ " /instanceid \"" ++ instanceId ++ "\"")

/-! The text of `pnputil /enum-devices /deviceids`, parsed line by line.  A blank line or the next
instance id ends a device, and one without an instance id is skipped. -/

structure WindowsDevice where
  instanceId : Option Str
  description : Option Str
  hardwareIds : List Str
  compatibleIds : List Str
  problemCode : Option Int
  status : Option Str
deriving DecidableEq

/-- What the block of the device that is being read has said so far. -/
structure Current where
  instanceId : Str
  description : Option Str := none
  hwids : Option (List Str) := none
  compats : Option (List Str) := none
  problem : Option Int := none
  status : Option Str := none

structure Parsing where
  devices : List WindowsDevice
  current : Option Current

def isFieldChar (c : Char) : Bool := c.isAlphanum || c == ' '

/-- `^([A-Za-z][A-Za-z0-9 ]*?):\t+(.*)$` -/
def matchField (line : Str) : Option (Str × Str) :=
  match line.span isFieldChar with
  | (c :: key, ':' :: '\t' :: value) =>
      if c.isAlpha then some (c :: key, value.dropWhile (· == '\t')) else none
  | _ => none

def rstripNewlines (line : Str) : Str := line.rdropWhile fun c => c == '\r' || c == '\n'

def Current.device (current : Current) : WindowsDevice where
  instanceId := some current.instanceId
  description := current.description
  hardwareIds := current.hwids.getD []
  compatibleIds := current.compats.getD []
  problemCode := current.problem
  status := current.status

def Parsing.flush (state : Parsing) : Parsing where
  devices := match state.current with
    | some current => if current.instanceId ≠ [] then state.devices ++ [current.device] else state.devices
    | none => state.devices
  current := none

section Parser

/-! What `str.upper` makes of a text is the interpreter's. -/

variable [Interpreter] (toUpper : Str → Str)

def normHwid (value : Str) : Str := toUpper (strip value)

def normHwids (value : Str) : List Str :=
  ((value.splitOn ' ').filter fun part => strip part ≠ []).map (normHwid toUpper)

/-- The runs of decimal digits in the value, joined. -/
def digitsOf (value : Str) : List Nat := value.flatMap fun c => takeDecimal [c]

def problemCode (value : Str) : Py (Option Int) :=
  if digitsOf value = [] then .ok none else some <$> intOfDecimal false (digitsOf value)

def Current.assign (current : Current) (key value : Str) : Py Current :=
  if key = "Device Description" then .ok { current with description := some value }
  else if key = "Hardware IDs" then .ok { current with hwids := some (normHwids toUpper value) }
  else if key = "Compatible IDs" then .ok { current with compats := some (normHwids toUpper value) }
  else if key = "Problem Code" then do
    let problem ← problemCode value
    return { current with problem }
  else if key = "Status" then .ok { current with status := some value }
  else .ok current

def readLine (state : Parsing) (rawLine : Str) : Py Parsing :=
  let line := rstripNewlines rawLine
  if strip line = [] then .ok state.flush
  else match matchField line with
    | none => .ok state
    | some (key, value) =>
        if strip key = "Instance ID" then .ok { state.flush with current := some { instanceId := strip value } }
        else match state.current with
          | none => .ok state
          | some current => do
              let current ← current.assign toUpper (strip key) (strip value)
              return { state with current := some current }

def parseLines (lines : List Str) : Py (List WindowsDevice) := do
  let state ← lines.foldlM (readLine toUpper) ⟨[], none⟩
  return state.flush.devices

def parsePnputilOutput (text : Str) : Py (List WindowsDevice) := parseLines toUpper (splitlines text)

end Parser

def IsBlank (rawLine : Str) : Prop := strip (rstripNewlines rawLine) = []

/-- The field that a line gives, without the space around its key and its value. -/
def fieldOf (rawLine : Str) : Option (Str × Str) :=
  (matchField (rstripNewlines rawLine)).map fun (key, value) => (strip key, strip value)

section Lines

variable {line key value text : Str} {current : Current} {devices earlier : List WindowsDevice} {state : Parsing}

theorem matchField_eq_some_iff : matchField line = some (key, value) ↔
    ∃ tabbed, line = key ++ ':' :: '\t' :: tabbed ∧ value = tabbed.dropWhile (· == '\t') ∧
      (∀ c ∈ key, isFieldChar c = true) ∧ ∃ c ∈ key.head?, c.isAlpha = true := by
  constructor
  · intro found
    cases spanned : line.span isFieldChar with
    | mk body rest =>
        obtain ⟨split, inside, _⟩ := span_eq_iff.mp spanned
        unfold matchField at found
        rw [spanned] at found
        split at found
        · rename_i c key' value' same
          obtain ⟨rfl, rfl⟩ := Prod.mk.inj same
          split at found
          · rename_i letter
            obtain ⟨rfl, rfl⟩ := Prod.mk.inj (Option.some.inj found)
            exact ⟨value', split, rfl, inside, c, rfl, letter⟩
          · cases found
        · cases found
  · rintro ⟨tabbed, rfl, rfl, inside, c, first, letter⟩
    have stops : ∀ d ∈ (':' :: '\t' :: tabbed).head?, isFieldChar d = false := by
      intro d head
      rw [← Option.some.inj head]
      decide
    obtain ⟨rest, rfl⟩ := List.head?_eq_some_iff.mp first
    unfold matchField
    rw [span_exact inside stops]
    exact if_pos letter

theorem isSpace_of_isAlphanum {c : Char} (alphanumeric : c.isAlphanum = true) : isSpace c = false := by
  have between : ∀ low high : UInt32, (decide (low ≤ c.val) && decide (c.val ≤ high)) = true →
      low.toNat ≤ c.toNat ∧ c.toNat ≤ high.toNat := by
    intro low high within
    rw [Bool.and_eq_true, decide_eq_true_eq, decide_eq_true_eq, UInt32.le_iff_toNat_le, UInt32.le_iff_toNat_le] at within
    exact within
  have ranges : (65 ≤ c.toNat ∧ c.toNat ≤ 90 ∨ 97 ≤ c.toNat ∧ c.toNat ≤ 122) ∨ 48 ≤ c.toNat ∧ c.toNat ≤ 57 := by
    rcases Bool.or_eq_true_iff.mp alphanumeric with letter | digit
    · rcases Bool.or_eq_true_iff.mp letter with upper | lower
      · refine .inl (.inl (between 65 90 ?_))
        rw [← Bool.decide_and]
        exact upper
      · exact .inl (.inr (between 97 122 lower))
    · exact .inr (between 48 57 digit)
  simp only [isSpace, Bool.or_eq_false_iff, Bool.and_eq_false_iff, decide_eq_false_iff_not, beq_eq_false_iff_ne]
  omega

theorem not_isBlank_of_fieldOf (field : fieldOf line = some (key, value)) : ¬ IsBlank line := by
  obtain ⟨⟨key', value'⟩, found, _⟩ := Option.map_eq_some_iff.mp field
  obtain ⟨tabbed, split, _, _, c, first, letter⟩ := matchField_eq_some_iff.mp found
  intro blank
  have spaces := stripWhile_eq_nil_iff.mp blank
  have member : c ∈ rstripNewlines line := by
    rw [split]
    exact List.mem_append_left _ (List.mem_of_mem_head? first)
  exact absurd (spaces c member) (by simp [isSpace_of_isAlphanum (Bool.or_eq_true_iff.mpr (.inl letter))])

end Lines

section Steps

variable [Interpreter] {toUpper : Str → Str} {line key value : Str} {current : Current} {state : Parsing}

theorem readLine_blank (blank : IsBlank line) : readLine toUpper state line = .ok state.flush := if_pos blank

theorem readLine_garbage (solid : ¬ IsBlank line) (garbage : fieldOf line = none) :
    readLine toUpper state line = .ok state := by
  have unmatched := Option.map_eq_none_iff.mp garbage
  have unblank : ¬ strip (rstripNewlines line) = [] := solid
  simp only [readLine, if_neg unblank, unmatched]

theorem readLine_of_fieldOf (field : fieldOf line = some (key, value)) : readLine toUpper state line =
    if key = "Instance ID" then .ok { state.flush with current := some { instanceId := value } }
    else match state.current with
      | none => .ok state
      | some current => do
          let current ← current.assign toUpper key value
          return { state with current := some current } := by
  have solid : ¬ strip (rstripNewlines line) = [] := not_isBlank_of_fieldOf field
  obtain ⟨⟨key', value'⟩, found, same⟩ := Option.map_eq_some_iff.mp field
  obtain ⟨rfl, rfl⟩ := Prod.mk.inj same
  simp only [readLine, if_neg solid, found]

theorem readLine_instance (field : fieldOf line = some (("Instance ID" : Str), value)) :
    readLine toUpper state line = .ok { state.flush with current := some { instanceId := value } } := by
  rw [readLine_of_fieldOf field, if_pos rfl]

theorem readLine_closed (field : fieldOf line = some (key, value)) (other : key ≠ "Instance ID")
    (closed : state.current = none) : readLine toUpper state line = .ok state := by
  rw [readLine_of_fieldOf field, if_neg other, closed]

theorem readLine_assign (field : fieldOf line = some (key, value)) (other : key ≠ "Instance ID")
    (opened : state.current = some current) : readLine toUpper state line =
      (fun current => { state with current := some current }) <$> current.assign toUpper key value := by
  rw [readLine_of_fieldOf field, if_neg other, opened]
  rfl

/-- What a line does to the state. -/
inductive Reads (toUpper : Str → Str) (state : Parsing) (line : Str) : Py Parsing → Prop where
  | blank (blank : IsBlank line) : Reads toUpper state line (.ok state.flush)
  | garbage (solid : ¬ IsBlank line) (garbage : fieldOf line = none) : Reads toUpper state line (.ok state)
  | opens {value : Str} (field : fieldOf line = some (("Instance ID" : Str), value)) :
      Reads toUpper state line (.ok { state.flush with current := some { instanceId := value } })
  | closed {key value : Str} (field : fieldOf line = some (key, value)) (other : key ≠ "Instance ID")
      (closed : state.current = none) : Reads toUpper state line (.ok state)
  | assigns {key value : Str} {current : Current} (field : fieldOf line = some (key, value))
      (other : key ≠ "Instance ID") (opened : state.current = some current) :
      Reads toUpper state line ((fun current => { state with current := some current }) <$> current.assign toUpper key value)

theorem readLine_reads : Reads toUpper state line (readLine toUpper state line) := by
  by_cases blank : IsBlank line
  · rw [readLine_blank blank]
    exact .blank blank
  · cases field : fieldOf line with
    | none =>
        rw [readLine_garbage blank field]
        exact .garbage blank field
    | some read =>
        obtain ⟨key, value⟩ := read
        by_cases instanceKey : key = "Instance ID"
        · subst instanceKey
          rw [readLine_instance field]
          exact .opens field
        · cases opened : state.current with
          | none =>
              rw [readLine_closed field instanceKey opened]
              exact .closed field instanceKey opened
          | some current =>
              rw [readLine_assign field instanceKey opened]
              exact .assigns field instanceKey opened

end Steps

end DongleRescue.Windows
