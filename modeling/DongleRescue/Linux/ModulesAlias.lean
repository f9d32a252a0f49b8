import DongleRescue.Host

namespace DongleRescue.Linux

open DongleRescue.Data

/-! `modules.alias` reader and deterministic matcher. -/

structure AliasLine where
  pattern : Str
  module : Str
  raw : Str
deriving DecidableEq

/-- What a matcher is given: raw text, or rows parsed before. -/
inductive AliasItem where
  | text (raw : Str)
  | row (line : AliasLine)

def modulesAliasPath (release : Str) : Str := "/lib/modules/" ++ release ++ "/modules.alias"

def readAliasLines (host : Host) (release : Str) : Except HostFailure (List Str) :=
  (host.read (modulesAliasPath release)).map splitlines

def isRowSpace (c : Char) : Bool := isSpace c && c != '\n'

/-- `alias <pattern> <module>`; the separators and the fields are disjoint
classes, so the greedy reading is the only one. -/
def matchRow (text : Str) : Option (Str × Str) :=
  if !startsWith text "alias" then none
  else
    let (gap, afterGap) := (text.drop 5).span isRowSpace
    let (pattern, afterPattern) := afterGap.span (!isSpace ·)
    let (gap', afterGap') := afterPattern.span isRowSpace
    let (module, afterModule) := afterGap'.span (!isSpace ·)
    let tail := afterModule.dropWhile isRowSpace
    if gap = [] ∨ pattern = [] ∨ gap' = [] ∨ module = [] then none
    else if tail = [] ∨ tail = ['\n'] then some (pattern, module)
    else none

def isRowPadding (c : Char) : Bool := c = '\r' || c = '\n' || c = '\t' || c = ' '

def parseAliasLine (raw : Str) : Option AliasLine :=
  match matchRow (stripWhile isRowPadding raw) with
  | some (pattern, module) =>
      if startsWith pattern "usb:" then some { pattern, module, raw } else none
  | none => none

def parseAliasLines (lines : List Str) : List AliasLine := lines.filterMap parseAliasLine

def requiredGroup (name : Str) (width : Nat) (text : Str) : Option Str :=
  let value := text.drop name.length
  if startsWith text name && decide ((value.take width).length = width) &&
      (value.take width).all isHex then
    some (value.drop width)
  else none

def optionalGroup (name : Str) (star : Bool) (text : Str) : Str :=
  let value := text.drop name.length
  if startsWith text name && star && startsWith value "*" then value.drop 1
  else (requiredGroup name 2 text).getD text

def optionalGroups : List (Str × Bool) :=
  [("dc", false), ("dsc", false), ("dp", false), ("ic", true), ("isc", true), ("ip", true),
    ("in", true)]

/-- No optional group can start inside or instead of another one, so reading them
in order without going back is the whole of the expression. -/
def readGroups (groups : List (Str × Bool)) (text : Str) : Str :=
  groups.foldl (fun rest group => optionalGroup group.1 group.2 rest) text

def modaliasOk (text : Str) : Bool :=
  match (requiredGroup "usb:v" 4 text).bind (requiredGroup "p" 4) |>.bind (requiredGroup "d" 4) with
  | none => false
  | some rest => decide (readGroups optionalGroups rest = [])

def sanitizeModalias (value : Str) : Option Str :=
  let text := strip value
  if modaliasOk text then some (upper text) else none

def fieldSpecs : List (Str × Nat) :=
  [("v", 4), ("p", 4), ("d", 4), ("dc", 2), ("dsc", 2), ("dp", 2),
    ("ic", 2), ("isc", 2), ("ip", 2), ("in", 2)]

/-- The field loop of the body parser, on the text after the cursor. -/
def parseFields : List (Str × Nat) → Str → Option (List (Str × Str))
  | [], rest => if rest = [] then some [] else none
  | (name, width) :: specs, rest =>
      if rest = [] then some []
      else if lower (rest.take name.length) ≠ name then none
      else
        let value := rest.drop name.length
        if startsWith value "*" then
          (parseFields specs (value.drop 1)).map ((name, ['*']) :: ·)
        else if (value.take width).length ≠ width ∨ !(value.take width).all isHex then none
        else (parseFields specs (value.drop width)).map ((name, upper (value.take width)) :: ·)

def parseBody (body : Str) : Option (List (Str × Str)) :=
  if body = ['*'] then some [] else parseFields fieldSpecs body

def fieldValue (fields : List (Str × Str)) (name : Str) : Option Str :=
  (fields.find? fun field => field.1 = name).map Prod.snd

/-- One field of the comparison: only a concrete pattern value constrains. -/
def fieldAgrees (pattern modalias : List (Str × Str)) (name : Str) : Bool :=
  match fieldValue pattern name with
  | none => true
  | some value => value = ['*'] || fieldValue modalias name = some value

def patternMatches (pattern modalias : Str) : Bool :=
  if !startsWith (lower pattern) "usb:" || decide (pattern.length ≤ 4) then false
  else match parseBody (pattern.drop 4), parseBody (modalias.drop 4) with
    | some patternFields, some modaliasFields =>
        fieldSpecs.all fun spec => fieldAgrees patternFields modaliasFields spec.1
    | _, _ => false

def asRows (items : List AliasItem) : List AliasLine :=
  items.flatMap fun
    | .row line => [line]
    | .text raw => parseAliasLines [raw]

def matchWithLines (modalias : Str) (items : List AliasItem) : List AliasLine :=
  match sanitizeModalias modalias with
  | none => []
  | some normalized => (asRows items).filter fun row => patternMatches row.pattern normalized

def «match» (modalias : Str) (items : List AliasItem) : List Str :=
  (matchWithLines modalias items).map (·.module)

example : «match» "usb:v148Fp760Ad0200dc00dsc00dp00icFFisc00ip00in00" (
    [.text "alias usb:v148Fp7601d*dc*dsc*dp*ic*isc*ip*in* mt7601u",
      .text "alias usb:v148Fp760Ad*dc*dsc*dp*ic*isc*ip*in* mt7601u\r\n",
      .text "alias usb:v148Fp760Ad?dc*dsc*dp*ic*isc*ip*in* wrong",
      .text "alias\tusb:*   mt76x0u "] : List AliasItem) = ["mt7601u", "mt76x0u"] := by
  decide +kernel

end DongleRescue.Linux
