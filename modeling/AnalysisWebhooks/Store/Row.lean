import AnalysisWebhooks.Analysis.Basic
import AnalysisWebhooks.Calendar.Writing
import AnalysisWebhooks.Check.Record
import AnalysisWebhooks.Check.Scalar
import AnalysisWebhooks.Failure

namespace AnalysisWebhooks

open Calendar Check

structure PropertyRow where
  key : String
  component : Option String
  value : Option String
  createdAt : String
deriving DecidableEq, Repr

structure BranchRow (Kind : Type) where
  uuid : String
  project : String
  key : String
  kind : Kind
deriving DecidableEq, Repr

structure SnapshotRow (Date : Type) where
  uuid : String
  component : String
  status : String
  isLast : Bool
  createdAt : Date
deriving DecidableEq, Repr

structure ActivityRow (Status Date : Type) where
  uuid : String
  taskType : String
  component : Option String
  analysis : Option String
  status : Status
  isLast : Bool
  submittedAt : Date
  executedAt : Option Date
deriving DecidableEq, Repr

structure DeliveryRow (Body Date : Type) where
  uuid : String
  project : String
  task : Option String
  analysis : Option String
  name : String
  url : String
  success : Bool
  httpStatus : Option Int
  durationMs : Option Int
  payload : Body
  error : Option String
  createdAt : Date
deriving DecidableEq, Repr

def Check.orFailure {α : Type} (name : String) : Check α → Except Failure α
  | .ok a => .ok a
  | .bad faults =>
    if faults.any (·.cause = .outOfYears) then .error .outOfYears else .error (.invalid name faults)

namespace BranchRow

def title : String := "BranchRow"

def read (row : BranchRow String) : Except Failure (BranchRow BranchKind) :=
  orFailure title <|
    (fun kind => { row with kind }) <$>
      (oneOf BranchKind.names (.text row.kind)).within (.key "branch_type")

end BranchRow

namespace SnapshotRow

def title : String := "SnapshotRow"

def read (row : SnapshotRow String) : Except Failure (SnapshotRow Moment) :=
  orFailure title <|
    (fun createdAt => { row with createdAt }) <$>
      (storedText row.createdAt).within (.key "created_at")

end SnapshotRow

namespace ActivityRow

def title : String := "CeActivityRow"

def readExecuted : Option String → Check (Option Moment)
  | some date => some <$> (storedText date).within (.key "executed_at")
  | none => ok none

def read (row : ActivityRow String String) : Except Failure (ActivityRow TaskStatus Moment) :=
  orFailure title <|
    (fun status submittedAt executedAt => { row with status, submittedAt, executedAt }) <$>
      (oneOf TaskStatus.names (.text row.status)).within (.key "status") <*>
      (storedText row.submittedAt).within (.key "submitted_at") <*>
      readExecuted row.executedAt

end ActivityRow

namespace DeliveryRow

def title : String := "WebhookDeliveryRow"

def read (withPayload : Bool) (row : DeliveryRow String String) :
    Except Failure (DeliveryRow (Option String) Moment) :=
  orFailure title <|
    (fun createdAt =>
      { row with payload := if withPayload then some row.payload else none, createdAt }) <$>
      (storedText row.createdAt).within (.key "created_at")

end DeliveryRow

end AnalysisWebhooks
