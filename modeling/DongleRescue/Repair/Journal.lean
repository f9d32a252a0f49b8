import DongleRescue.Data.Lines
import DongleRescue.Repair.TransactionIds

namespace DongleRescue.Repair

open DongleRescue.Data

/-! The append-only journal: one JSON document a line, corrupt lines surface. -/

/-- What `json.loads` may raise: its own error, with a message, or another one. -/
inductive LoadsFailure where
  | decodeError (message : Str)
  | other (failure : PyError)

abbrev Loads := Str → Except LoadsFailure Json

def subscript (key : Str) : Json → Py Json
  | .dict items =>
      match Json.lookup key items with
      | some value => .ok value
      | none => .error (.keyError key)
  | .list _ => .error (.typeError "list indices must be integers or slices, not str")
  | .str _ => .error (.typeError "string indices must be integers, not 'str'")
  | .null => .error (.typeError "'NoneType' object is not subscriptable")
  | .bool _ => .error (.typeError "'bool' object is not subscriptable")
  | .int _ => .error (.typeError "'int' object is not subscriptable")
  | .float _ => .error (.typeError "'float' object is not subscriptable")

def recordOf (raw : Json) : Py TransactionRecord := do
  let transactionId ← subscript "transaction_id" raw
  let beforeState ← subscript "before_state" raw
  let change ← subscript "change" raw
  let afterState ← subscript "after_state" raw
  let rollbackAction ← subscript "rollback_action" raw
  return { transactionId, beforeState, change, afterState, rollbackAction }

namespace Journal

/-- The content of the journal file; none where there is no file. -/
abbrev Content := Option Str

def append (content : Content) (rec : TransactionRecord) : Content :=
  some (content.getD [] ++ (Json.dumps rec.toDict ++ ['\n']))

section Load

variable (loads : Loads)

def loadLine (number : Nat) (line : Str) : Py TransactionRecord :=
  match loads line with
  | .ok raw => recordOf raw
  | .error (.decodeError message) =>
      .error (.valueError ("journal corrupt at line " ++ decimal number ++ ": " ++ message))
  | .error (.other failure) => .error failure

def loadLines : Nat → List Str → Py (List TransactionRecord)
  | _, [] => .ok []
  | number, line :: lines =>
      if strip line = [] then loadLines (number + 1) lines
      else do
        let rec ← loadLine loads number line
        let records ← loadLines (number + 1) lines
        return rec :: records

def load : Content → Py (List TransactionRecord)
  | none => .ok []
  | some text => loadLines loads 1 (splitlines (universalNewlines text))

/-- The file under the path of the journal.  Bytes that are no UTF-8 fail to decode, with a
`ValueError` of its own text. -/
inductive File where
  | decoded (content : Content)
  | undecodable (detail : Str)

def loadFile : File → Py (List TransactionRecord)
  | .decoded content => load loads content
  | .undecodable detail => .error (.valueError ("'utf-8' codec can't decode " ++ detail))

end Load

end Journal

end DongleRescue.Repair
