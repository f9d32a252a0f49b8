import DongleRescue.Types

namespace DongleRescue.Repair

open DongleRescue.Data DongleRescue.Posix

/-! Repair transactions: content-hash ids and the rollback planner, which
describes inverse actions without executing them. -/

section Transactions

variable [Interpreter]

def transactionIdFrom (beforeState change afterState rollbackAction : Json) : Str :=
  Interpreter.sha256 (join "|" ([beforeState, change, afterState, rollbackAction].map Json.canonical))

def createTransaction (before change after rollbackAction : Json) : TransactionRecord where
  transactionId := .str (transactionIdFrom before change after rollbackAction)
  beforeState := before
  change := change
  afterState := after
  rollbackAction := rollbackAction

end Transactions

inductive RollbackAction where
  | noop
  | removeFile (path note : Str) (restoreSha256 : Json)
  | removeNewId (driver vidPid note : Str)

/-- A guarded step; an absent target makes it a no-op. -/
structure RollbackStep where
  seq : Nat
  action : RollbackAction
  ifPresent : Bool

def isVidPid (text : Str) : Bool :=
  decide (text.length = 9) && (text.take 4).all isHex && decide ((text.drop 4).head? = some ':') &&
    (text.drop 5).all isHex

section Rollback

variable [Interpreter]

/-- `value.get(key)`; only dicts have it. -/
def pyGet (key : Str) : Json → Py Json
  | .dict items => .ok ((Json.lookup key items).getD .null)
  | _ => .error (.attributeError "get")

def planRemoveFile (rollbackAction : Json) : Py (List RollbackStep) := do
  let path ← pyGet "path" rollbackAction
  match path with
  | .str text =>
      if startsWith text "/" ∧ normpath text = text then do
        let restore ← pyGet "restore_if_existed" rollbackAction
        let restoreSha256 ← pyGet "sha256" (if restore.truthy then restore else .dict [])
        return [{
          seq := 1
          action := .removeFile text "restore only if before-state says it existed" restoreSha256
          ifPresent := true }]
      else .error (.valueError ("rollback path must be absolute+normalized: " ++ pyRepr text))
  | other => .error (.valueError ("rollback path must be absolute+normalized: " ++ other.repr))

def planRemoveNewId (rollbackAction : Json) : Py (List RollbackStep) := do
  let driver ← pyGet "driver" rollbackAction
  let vidPid ← pyGet "vid_pid" rollbackAction
  match driver, vidPid with
  | .str (c :: driver), .str vidPid => do
      let driver ← requireModuleName (c :: driver)
      if isVidPid vidPid then
        return [{
          seq := 1
          action := .removeNewId driver vidPid
            "rewrite new_id list without this pair; volatile by design"
          ifPresent := true }]
      else .error (.valueError ("invalid vid:pid for remove_new_id: " ++ pyRepr vidPid))
  | _, _ => .error (.valueError "remove_new_id requires driver and vid_pid")

def planRollback (rec : TransactionRecord) : Py (List RollbackStep) := do
  let op ← pyGet "op" rec.rollbackAction
  match op with
  | .str text =>
      if text = "noop" then return [⟨1, .noop, true⟩]
      else if text = "remove_file" then planRemoveFile rec.rollbackAction
      else if text = "remove_new_id" then planRemoveNewId rec.rollbackAction
      else .error (.valueError ("unknown rollback op: " ++ pyRepr text))
  | other => .error (.valueError ("unknown rollback op: " ++ other.repr))

theorem planRollback_removeFile {rec : TransactionRecord}
    (op : pyGet "op" rec.rollbackAction = .ok (.str "remove_file")) :
    planRollback rec = planRemoveFile rec.rollbackAction := by
  rw [planRollback]
  rw [op]
  rfl

end Rollback

end DongleRescue.Repair
