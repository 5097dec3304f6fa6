import AnalysisWebhooks.Store.Basic
import AnalysisWebhooks.Store.Sorted
import AnalysisWebhooks.Webhook.Basic

namespace AnalysisWebhooks

open Calendar

def errorLength : Nat := 4000

def DeliveryRow.ofDelivery (uuid : String) (d : Delivery) :
    Except Failure (DeliveryRow String String) := do
  let createdAt ← storedDate d.time
  let analysis ← d.webhook.subject.analysis.mapM RawText.encoded
  let httpStatus ← d.httpStatus.mapM columnNumber
  let durationMs ← d.durationMs.mapM columnNumber
  return {
    uuid
    project := d.webhook.subject.project
    task := d.webhook.subject.task
    analysis
    name := d.webhook.name
    url := d.webhook.url
    success := d.success
    httpStatus
    durationMs
    payload := d.payload.body
    error := d.errorMessage.map fun error => String.ofList (error.toList.take errorLength)
    createdAt }

def newestFirst {Body : Type} (rows : List (DeliveryRow Body String)) :
    List (DeliveryRow Body String) :=
  sorted (fun a b => decide (b.createdAt ≤ a.createdAt)) rows.reverse

namespace Store

def withDelivery (s : Store) (uuid : String) (d : Delivery) : Except Failure Store := do
  let row ← DeliveryRow.ofDelivery uuid d
  if s.deliveries.any (·.uuid = uuid) then throw (.duplicate "webhook_deliveries" ["uuid"])
  return { s with deliveries := s.deliveries ++ [row] }

def rowLimit (count : Int) : Except Failure Nat :=
  (columnNumber (max 1 count)).map Int.toNat

def newestOf (s : Store) (project : String) (count : Nat) : List String :=
  ((newestFirst (s.deliveries.filter (·.project = project))).take count).map (·.uuid)

def purged (s : Store) (project : String) (count : Nat) : Store :=
  let kept := s.newestOf project count
  { s with deliveries := s.deliveries.filter fun row =>
      row.project ≠ project || kept.contains row.uuid }

def trimmed (s : Store) (project : String) (retention : Int) : Except Failure (Nat × Store) := do
  let kept := s.purged project (← rowLimit retention)
  return (s.deliveries.length - kept.deliveries.length, kept)

def countDeliveries (s : Store) : (project : Option String) → Nat
  | none => s.deliveries.length
  | some project => s.deliveries.countP (·.project = project)

def listDeliveries (s : Store) (project task : Option String) (limit : Int) :
    Except Failure (List (DeliveryRow (Option String) Moment)) := do
  let count ← rowLimit limit
  let asked := s.deliveries.filter fun row =>
    project.all (row.project = ·) && task.all fun task => row.task = some task
  ((newestFirst asked).take count).mapM (DeliveryRow.read false)

def delivery? (s : Store) (uuid : String) :
    Except Failure (Option (DeliveryRow (Option String) Moment)) :=
  match s.deliveries.find? (·.uuid = uuid) with
  | some row => some <$> row.read true
  | none => .ok none

end Store

end AnalysisWebhooks
