import AnalysisWebhooks.Json.Reader
import AnalysisWebhooks.Service.IssueChanges
import AnalysisWebhooks.Service.Recording
import AnalysisWebhooks.Store.Document
import AnalysisWebhooks.Web.Message
import AnalysisWebhooks.Web.Route

namespace AnalysisWebhooks

open Calendar

structure IssueTrigger where
  onTransition : ChangeSet → Option RawText → ChangeContext → Action Nat
  onTypeChange : ChangeSet → RawText → ChangeContext → Action Nat

def IssueTrigger.webhooks : IssueTrigger :=
  ⟨AnalysisWebhooks.onTransition, AnalysisWebhooks.onTypeChange⟩

def bodyDocument (body : String) : Except Refusal Json :=
  if body.isEmpty then .ok .null
  else
    match Json.ofText? body with
    | some j => .ok j
    | none => .error (.badRequest "Failed when parsing body as json")

def readBody {α : Type} (title : String) (read : Json → Check α) (body : String) :
    Except Refusal α := do
  match ← bodyDocument body with
  | .object members =>
    match read (.object members) with
    | .ok value => pure value
    | .bad faults => throw (.invalid title faults)
  | _ => throw (.badRequest "Expected a JSON object")

def withBody {α : Type} (title : String) (read : Json → Check α) (body : String)
    (go : α → Action Response) : Action Response :=
  match readBody title read body with
  | .ok value => go value
  | .error refusal => pure (.refused refusal)

def handleFinished (f : FinishedAnalysis) : Action Response := do
  f.record
  Action.log .debug ("Compute task " ++ f.report.taskId.shown ++ " finished")
  let _ ← finish [webhookTask] f.report f.allStepsExecuted
  return .done

def reactToIssues (context : ErrorContext) (what : String) (reaction : Action Nat) :
    Action Response := do
  let _ ← Action.orElse reaction fun _ => do
    Action.measure (.countError context)
    Action.log .error ("Exception raised when notifying issue " ++ what)
    return 0
  return .done

def handleTransition (trigger : IssueTrigger) (t : IssueTransition) : Action Response := do
  let now := (← get).clock
  reactToIssues .issueTransition "transition" <|
    trigger.onTransition t.change.changes t.transition (t.change.context now)

def handleTypeChange (trigger : IssueTrigger) (t : IssueTypeChange) : Action Response := do
  let now := (← get).clock
  reactToIssues .issueTypeChange "type change" <|
    trigger.onTypeChange t.change.changes t.type (t.change.context now)

def listLimit : Int := 100

def handleDeliveries (query : String) : Action Response :=
  match parameter? query "projectUuid", parameter? query "ceTaskId" with
  | none, none =>
    pure (.refused (.badRequest "Either 'projectUuid' or 'ceTaskId' must be provided"))
  | project, task => do
    let rows ← Action.ask fun store => store.listDeliveries project task listLimit
    return .document
      (.object [("deliveries", .array (rows.map fun row => .object row.summary))])

def handleDelivery (query : String) : Action Response :=
  match parameter? query "deliveryId" with
  | none => pure (.refused (.badRequest "Parameter 'deliveryId' is missing"))
  | some uuid => do
    match ← Action.ask fun store => store.delivery? uuid with
    | some row => return .document (.object [("delivery", .object row.members)])
    | none => return .refused (.notFound ("Webhook delivery " ++ uuid ++ " not found"))

def SetSetting.apply (t : SetSetting) (now : Moment) (s : Store) : Except Failure Store := do
  let key ← t.key.encoded
  let component ← t.component.mapM RawText.encoded
  let _ ← storedDate now
  s.withProperty now key component (some (← t.value.text.encoded))

def handleSet (setting : SetSetting) : Action Response := do
  let now := (← get).clock
  Action.change (setting.apply now)
  return .done

def ResetSetting.apply (t : ResetSetting) (s : Store) : Except Failure Store := do
  let key ← t.key.encoded
  return s.withoutProperty key (← t.component.mapM RawText.encoded)

def handleReset (setting : ResetSetting) : Action Response := do
  Action.change setting.apply
  return .done

def Route.handle (trigger : IssueTrigger) (request : Request) : Route → Action Response
  | status => pure (.text "ok")
  | metrics => do return .metrics (← get).metrics.samples
  | analysisFinished =>
    withBody "AnalysisFinishedRequest" FinishedAnalysis.read request.body handleFinished
  | issueTransition =>
    withBody "IssueTransitionRequest" IssueTransition.read request.body (handleTransition trigger)
  | issueType =>
    withBody "IssueTypeRequest" IssueTypeChange.read request.body (handleTypeChange trigger)
  | deliveries => handleDeliveries request.query
  | delivery => handleDelivery request.query
  | setSetting => withBody "SetSettingRequest" SetSetting.read request.body handleSet
  | resetSetting => withBody "ResetSettingRequest" ResetSetting.read request.body handleReset

def handle (trigger : IssueTrigger) (request : Request) : Action Response := do
  if request.path ≠ Route.metrics.path then Action.measure (.countRequest request.path)
  match Route.ofPath? request.path with
  | none => return .refused (.notFound ("Requested URL " ++ request.path ++ " not found"))
  | some route =>
    if request.method = route.method then
      Action.orElse (route.handle trigger request) fun _ => pure (.refused .broken)
    else
      return .refused (.notAllowed
        ("Method " ++ request.method ++ " not allowed for URL " ++ request.path))

end AnalysisWebhooks
