import AnalysisWebhooks.Failure
import AnalysisWebhooks.Metrics.Basic
import AnalysisWebhooks.Settings
import AnalysisWebhooks.Store.Basic
import AnalysisWebhooks.Webhook.Basic

namespace AnalysisWebhooks

open Calendar

inductive CallFault where
  | cancelled
  | timeout
  | error (kind : String) (message : Option String)
deriving DecidableEq, Repr

structure Endpoint where
  status : Int := 200
  seconds : Float := 0
  fault : Option CallFault := none
  readSeconds : Float := 0
  readFault : Option CallFault := none
deriving Repr

-- What answers a call may depend on how many calls were made before it.
structure Network where
  endpoint : (earlier : Nat) → (url : String) → Endpoint := fun _ _ => {}

structure Call where
  url : String
  body : String
  headers : List (String × String)
  timeoutSeconds : Float
  followRedirects : Bool
deriving Repr

inductive LogLevel where
  | debug
  | info
  | error
deriving DecidableEq, Repr

def LogLevel.name : LogLevel → String
  | debug => "DEBUG"
  | info => "INFO"
  | error => "ERROR"

structure LogLine where
  level : LogLevel
  text : String
deriving DecidableEq, Repr

structure Service where
  settings : Settings := {}
  store : Store := {}
  metrics : Metrics := {}
  network : Network := {}
  clock : Moment := noon
  timer : Float := 0
  uuids : Nat := 0
  calls : List Call := []
  log : List LogLine := []

def Service.endpoint (s : Service) (url : String) : Endpoint :=
  s.network.endpoint s.calls.length url

abbrev Action (α : Type) := EStateM Failure Service α

namespace Action

variable {α : Type}

def log (level : LogLevel) (text : String) : Action Unit :=
  modify fun s => { s with log := s.log ++ [⟨level, text⟩] }

def measure (change : Metrics → Metrics) : Action Unit :=
  modify fun s => { s with metrics := change s.metrics }

def obtain : Except Failure α → Action α
  | .ok a => pure a
  | .error failure => throw failure

def ask (question : Store → Except Failure α) : Action α := do
  obtain (question (← get).store)

def change (operation : Store → Except Failure Store) : Action Unit := do
  match operation (← get).store with
  | .ok store => modify fun s => { s with store }
  | .error failure => throw failure

def orElse (action : Action α) (handle : Failure → Action α) : Action α :=
  tryCatch action fun failure => if failure.isOrdinary then handle failure else throw failure

end Action

namespace Metrics

def countError (context : ErrorContext) (m : Metrics) : Metrics :=
  { m with errors := m.errors.add context 1 }

def countDecision (trigger : Trigger) (decision : Decision) (m : Metrics) : Metrics :=
  { m with decisions := m.decisions.add (trigger, decision) 1 }

def countDelivery (success : Bool) (m : Metrics) : Metrics :=
  { m with deliveries := m.deliveries.add success 1 }

def countRequest (path : String) (m : Metrics) : Metrics :=
  { m with requests := m.requests.add path 1 }

def countTaskError (task : String) (m : Metrics) : Metrics :=
  { m with taskErrors := m.taskErrors.add task 1 }

def withDuration (ms : Nat) (m : Metrics) : Metrics :=
  { m with durations := m.durations ++ [ms] }

end Metrics

end AnalysisWebhooks
