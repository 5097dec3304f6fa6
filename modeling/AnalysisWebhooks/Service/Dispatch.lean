import AnalysisWebhooks.Service.Call
import AnalysisWebhooks.Store.Deliveries
import AnalysisWebhooks.Webhook.Configuration

namespace AnalysisWebhooks

open Calendar Decimal

def deliveryUuid (n : Nat) : String :=
  "delivery-" ++ String.ofList (padded 4 n)

def recordDelivery (d : Delivery) : Action String := do
  let service ← get
  let uuid := deliveryUuid (service.uuids + 1)
  set { service with uuids := service.uuids + 1 }
  Action.change fun store => store.withDelivery uuid d
  return uuid

def purge (project : String) : Action Nat := do
  let service ← get
  let (removed, store) ← Action.ask fun store =>
    store.trimmed project service.settings.retentionCount
  set { service with
    store
    metrics := { service.metrics with pruned := service.metrics.pruned + removed } }
  if 0 < removed then
    Action.log .debug
      ("Purged " ++ toString removed ++ " webhook deliveries of project " ++ project)
  return removed

def numberOr (fallback : Int) (n : Option Int) : String :=
  toString (n.getD fallback)

def Delivery.logLine (d : Delivery) : String :=
  match d.errorMessage with
  | some error =>
    "Failed to send webhook '" ++ d.webhook.name ++ "' | url=" ++ d.webhook.url ++ " | message=" ++
      error
  | none =>
    "Sent webhook '" ++ d.webhook.name ++ "' | url=" ++ d.webhook.url ++ " | time=" ++
      numberOr (-1) d.durationMs ++ "ms | status=" ++ numberOr (-1) d.httpStatus

def observeDelivery (success : Bool) (durationMs : Option Int) : Action Unit := do
  Action.measure (.countDelivery success)
  match durationMs with
  | none => pure ()
  | some ms =>
    if (floatOfInt? (max 0 ms)).isNone then throw .oversizedDuration
    Action.measure (.withDuration (max 0 ms).toNat)

def deliver (payload : Payload) (w : Webhook) : Action Delivery := do
  let delivery ← w.call payload
  Action.log .debug delivery.logLine
  observeDelivery delivery.success delivery.durationMs
  let _ ← recordDelivery delivery
  return delivery

def deliverAll (payload : Payload) : List Webhook → Action (List Delivery)
  | [] => pure []
  | w :: rest => do
    let delivery ← deliver payload w
    let more ← deliverAll payload rest
    return delivery :: more

def dispatch (configuration : Configuration) (subject : Subject) (makePayload : Action Payload) :
    Action (List Delivery) :=
  match configuration.webhooks subject with
  | [] => pure []
  | w :: rest => do
    let payload ← makePayload
    let deliveries ← deliverAll payload (w :: rest)
    let _ ← purge subject.project
    return deliveries

end AnalysisWebhooks
