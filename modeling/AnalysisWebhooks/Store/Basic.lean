import AnalysisWebhooks.Issue.Basic
import AnalysisWebhooks.Store.Row

namespace AnalysisWebhooks

open Calendar

structure Store where
  properties : List PropertyRow := []
  components : List Component := []
  branches : List (BranchRow String) := []
  snapshots : List (SnapshotRow String) := []
  activities : List (ActivityRow String String) := []
  deliveries : List (DeliveryRow String String) := []
deriving DecidableEq, Repr

def storedDate (m : Moment) : Except Failure String :=
  match m.storedText? with
  | some text => .ok text
  | none => .error .outOfYears

def columnBound : Int := 9223372036854775808

def fitsColumn (n : Int) : Bool :=
  -columnBound ≤ n && n < columnBound

def columnNumber (n : Int) : Except Failure Int :=
  if fitsColumn n then .ok n else .error .oversizedInteger

def upserted {α : Type} (sameKey : α → Bool) (merge : α → α) (fresh : α) : List α → List α
  | [] => [fresh]
  | row :: rest =>
    if sameKey row then merge row :: rest else row :: upserted sameKey merge fresh rest

end AnalysisWebhooks
