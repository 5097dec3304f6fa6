import AnalysisWebhooks.Service.Dispatch
import AnalysisWebhooks.Store.Analyses
import AnalysisWebhooks.Store.Properties
import AnalysisWebhooks.Webhook.Notification

namespace AnalysisWebhooks

open Calendar

structure PostTask where
  name : String
  run : ProjectAnalysis → Action Unit

def analysisUuidOf (a : ProjectAnalysis) (task : String) : Action (Option RawText) := do
  let recorded ← Action.ask fun store => store.activity? task
  return ((recorded.bind (·.analysis)).map .plain).or (a.analysis.map (·.uuid))

def Service.server (s : Service) : Server :=
  .ofText s.settings.serverUrl

def makePayload (a : ProjectAnalysis) : Action Payload := do
  let service ← get
  Action.obtain (a.createPayload service.server service.clock)

def notifyOfAnalysis (a : ProjectAnalysis) : Action Unit := do
  if (← get).settings.webhooksEnabled then
    let task ← Action.obtain a.task.id.encoded
    let analysis ← analysisUuidOf a task
    if analysis.isNone then
      Action.log .debug
        ("Task " ++ task ++ " of project " ++ a.project.key.shown ++ " produced no analysis")
    let project ← Action.obtain a.project.uuid.encoded
    let configuration ← Action.ask fun store => .ok (store.configurationFor (some project))
    let telling : Action Unit := do
      let _ ← dispatch configuration ⟨project, some task, analysis⟩ (makePayload a)
      Action.measure (.countDecision .analysis .dispatched)
    Action.orElse telling fun failure => do
      Action.measure (.countError .analysisWebhooks)
      Action.measure (.countDecision .analysis .error)
      throw failure
  else
    Action.measure (.countDecision .analysis .disabled)

def webhookTask : PostTask := ⟨"WebhookPostTask", notifyOfAnalysis⟩

def PostTask.attempt (t : PostTask) (a : ProjectAnalysis) : Action Unit :=
  Action.orElse (t.run a) fun _ => do
    Action.measure (.countTaskError t.name)
    Action.log .error ("Execution of task " ++ t.name ++ " failed")

def runTasks (a : ProjectAnalysis) : List PostTask → Action Unit
  | [] => pure ()
  | task :: rest => do
    task.attempt a
    runTasks a rest

def finish (tasks : List PostTask) (report : AnalysisReport) (allStepsExecuted : Bool) :
    Action (Option ProjectAnalysis) := do
  if tasks.isEmpty then return none
  let analysis := report.outcome allStepsExecuted
  runTasks analysis tasks
  return some analysis

end AnalysisWebhooks
