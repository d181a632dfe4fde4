-- The tool_approvals row of one approval and the statements of db/queries that write
-- it. Only `expirePendingApproval` guards its UPDATE with `status = 'requested'`; the
-- decision write `updateToolApprovalDecision` matches the approval id alone.
import TonAgentBot.Run

namespace ton_agent_bot.approvals

/-! ## The row -/

/-- `ApprovalStatus` of types/contracts. -/
inductive ApprovalStatus
  | requested
  | approved
  | denied
  | expired
  | failed
  deriving DecidableEq, Repr

/-- The status as the template literals of the source print it. -/
def ApprovalStatus.text : ApprovalStatus → String
  | .requested => "requested"
  | .approved => "approved"
  | .denied => "denied"
  | .expired => "expired"
  | .failed => "failed"

/-- The columns of a tool_approvals row that the modelled code reads or writes. Times are
milliseconds since the epoch. -/
structure ToolApproval where
  callbackToken : String
  status : ApprovalStatus
  expiresAt : Nat
  promptMessageId : Option Int
  reason : Option String
  decidedAt : Option Nat
  decidedBy : Option String
  deriving DecidableEq, Repr

/-- The fields of an `AuditEventRecord` that the approval code fills in: who acted and
what happened. -/
structure AuditEvent where
  actorType : String
  actorId : String
  eventType : String
  deriving DecidableEq, Repr

/-! ## The statements

The table is seen through the approval's primary key: the row, or none. -/

/-- JavaScript truthiness of an optional string: `undefined` and `""` are false. -/
def truthy : Option String → Bool
  | some r => !r.isEmpty
  | none => false

/-- `createToolApproval`: the inserted row, or none when a row with the same primary key
is there and the insert throws. -/
def createToolApproval (t : Option ToolApproval) (record : ToolApproval) :
    Option ToolApproval :=
  match t with
  | none => some record
  | some _ => none

/-- `updateToolApprovalDecision`: `UPDATE ... WHERE approval_id = $1`, with no condition
on the status. The new row is also what `returning()` gives back. -/
def updateToolApprovalDecision (t : Option ToolApproval) (status : ApprovalStatus)
    (decidedBy : String) (reason : Option String) (now : Nat) : Option ToolApproval :=
  t.map fun r => { r with
    status := status
    decidedBy := some decidedBy
    decidedAt := some now
    reason := if truthy reason then reason else r.reason }

/-- `expirePendingApproval`: the new table, and the row that `returning()` gives back,
which is none when the guard `status = 'requested'` did not hold. -/
def expirePendingApproval (t : Option ToolApproval) (now : Nat) :
    Option ToolApproval × Option ToolApproval :=
  match t with
  | some r =>
    if r.status = .requested then
      let r' := { r with
        status := .expired
        reason := some "Approval expired"
        decidedAt := some now
        decidedBy := some "system" }
      (some r', some r')
    else (t, none)
  | none => (none, none)

/-- `updateToolApprovalPromptMessage`: `UPDATE ... WHERE approval_id = $1` that records the
message id of the approval's card. -/
def updateToolApprovalPromptMessage (t : Option ToolApproval) (promptMessageId : Int) :
    Option ToolApproval :=
  t.map fun r => { r with promptMessageId := some promptMessageId }

def statusOf (t : Option ToolApproval) : Option ApprovalStatus := t.map (·.status)

theorem expirePendingApproval_of_ne {t : Option ToolApproval} (now : Nat)
    (h : statusOf t ≠ some .requested) : expirePendingApproval t now = (t, none) := by
  rcases t with _ | r
  · rfl
  · have : r.status ≠ .requested := fun e => h (by simp [statusOf, e])
    simp [expirePendingApproval, this]

def expiresAtOf (t : Option ToolApproval) : Option Nat := t.map (·.expiresAt)

/-! No write after the insert moves the expiry. -/

@[simp] theorem expiresAtOf_update (t : Option ToolApproval) (st : ApprovalStatus) (by_ : String)
    (reason : Option String) (now : Nat) :
    expiresAtOf (updateToolApprovalDecision t st by_ reason now) = expiresAtOf t := by
  cases t <;> rfl

@[simp] theorem expiresAtOf_expire (t : Option ToolApproval) (now : Nat) :
    expiresAtOf (expirePendingApproval t now).1 = expiresAtOf t := by
  rcases t with _ | r
  · rfl
  · by_cases h : r.status = .requested <;> simp [expirePendingApproval, expiresAtOf, h]

@[simp] theorem expiresAtOf_promptMessage (t : Option ToolApproval) (promptMessageId : Int) :
    expiresAtOf (updateToolApprovalPromptMessage t promptMessageId) = expiresAtOf t := by
  cases t <;> rfl

end ton_agent_bot.approvals
