import AnalysisWebhooks.Decimal.Binary
import AnalysisWebhooks.Service.Basic

namespace AnalysisWebhooks

open Decimal

structure CallOutcome where
  status : Option Int
  timer : Float
  fault : Option CallFault
deriving Repr

def Endpoint.outcome (e : Endpoint) : CallOutcome :=
  match e.fault with
  | some fault => ⟨none, e.seconds, some fault⟩
  | none => ⟨some e.status, e.seconds + e.readSeconds, e.readFault⟩

def CallFault.description : CallFault → String
  | cancelled => "Cancelled"
  | timeout => "Timeout while waiting for the webhook endpoint"
  | error kind message =>
    match message with
    | some text => if text.isEmpty then kind else kind ++ ": " ++ text
    | none => kind

def milliseconds (seconds : Float) : Except Failure Int :=
  match Binary.ofFloat (seconds * 1000) with
  | .finite d => .ok d.truncated
  | .infinite _ => .error .endlessDuration
  | .notANumber => .error .durationNotANumber

def projectHeader : String := "X-Analysis-Project"

def userAgent : String := "qualityhook/0.3.0"

def Webhook.request (w : Webhook) (payload : Payload) (timeoutSeconds : Float) : Call where
  url := w.url
  body := payload.body
  headers := [("Content-Type", "application/json"), ("User-Agent", userAgent),
    (projectHeader, payload.projectKey)]
  timeoutSeconds
  followRedirects := false

def Webhook.call (w : Webhook) (payload : Payload) : Action Delivery := do
  let service ← get
  let outcome := (service.endpoint w.url).outcome
  set { service with
    calls := service.calls ++ [w.request payload service.settings.timeoutSeconds]
    timer := outcome.timer }
  if outcome.fault = some .cancelled then throw .cancelled
  if outcome.fault.isSome then
    Action.log .debug ("Webhook call to " ++ w.url ++ " failed")
  match milliseconds (outcome.timer - service.timer) with
  | .error failure => throw failure
  | .ok duration =>
    return {
      webhook := w
      payload
      time := service.clock
      httpStatus := outcome.status
      durationMs := some duration
      error := outcome.fault.map CallFault.description }

end AnalysisWebhooks
