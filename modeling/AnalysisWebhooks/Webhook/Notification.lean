import AnalysisWebhooks.Analysis.Basic
import AnalysisWebhooks.Calendar.Writing
import AnalysisWebhooks.Failure
import AnalysisWebhooks.Json.Writer
import AnalysisWebhooks.Webhook.Basic
import AnalysisWebhooks.Webhook.Link

namespace AnalysisWebhooks

open Calendar

def presentMembers (members : List (String × Option Json)) : Json.Members :=
  members.filterMap fun (key, value?) => value?.map fun value => (.plain key, value)

namespace Condition

def document (c : Condition) : Json :=
  .object <| presentMembers [
    ("metric", some (.text c.metric)),
    ("operator", some (.text c.operator.name)),
    ("value", c.measure.text?.map .text),
    ("status", some (.text c.measure.statusName)),
    ("onLeakPeriod", some (.bool c.onLeakPeriod)),
    ("errorThreshold", c.errorThreshold.map .text),
    ("warningThreshold", c.warningThreshold.map .text)]

end Condition

namespace QualityGate

def document (g : QualityGate) : Json :=
  .object [("name", .text g.name), ("status", .text g.status.name),
    ("conditions", .array (g.conditions.map Condition.document))]

end QualityGate

namespace Project

def document (p : Project) (server : Server) : Json :=
  .object [("key", .text p.key), ("name", .text p.name),
    ("url", .text (server.projectLink p.key.shown))]

end Project

namespace Branch

def document (b : Branch) (server : Server) (projectKey : RawText) : Json :=
  .object <| presentMembers [
    ("name", b.name.map .text),
    ("type", some (.text b.kind.name)),
    ("isMain", some (.bool b.isMain)),
    ("url", some (.text (server.branchLink projectKey.shown b)))]

def linkName? (b : Branch) : Option RawText :=
  if b.kind = .long ∧ b.isMain then none else b.name

end Branch

def publicNamespace : String := "sonar.analysis."

namespace ProjectAnalysis

def publicProperties (a : ProjectAnalysis) : List (RawText × RawText) :=
  a.properties.filter fun (key, _) => key.startsWith publicNamespace

def dateMembers (a : ProjectAnalysis) (now : Moment) : Json.Members :=
  match a.analysis with
  | some info =>
    [("analysedAt", .text info.date.publicText), ("changedAt", .text info.date.publicText)]
  | none => [("changedAt", .text now.publicText)]

def document (a : ProjectAnalysis) (server : Server) (now : Moment) : Json :=
  .object <|
    ([("serverUrl", .text server.url), ("taskId", .text a.task.id),
      ("status", .text a.task.status.name)] : Json.Members) ++
    a.dateMembers now ++
    ([("project", a.project.document server)] : Json.Members) ++
    presentMembers [
      ("branch", a.branch.map fun b => b.document server a.project.key),
      ("qualityGate", a.gate.map QualityGate.document)] ++
    ([("properties", .object (a.publicProperties.map fun (key, value) => (key, .text value)))] :
      Json.Members)

def payload (a : ProjectAnalysis) (server : Server) (now : Moment) : Payload :=
  ⟨a.project.key.shown, (a.document server now).write⟩

def linkTexts (a : ProjectAnalysis) : List RawText :=
  a.project.key :: (a.branch.bind Branch.linkName?).toList

-- The links are the only texts of a payload that have to be encoded.
def createPayload (a : ProjectAnalysis) (server : Server) (now : Moment) :
    Except Failure Payload := do
  let _ ← a.linkTexts.mapM RawText.encoded
  return a.payload server now

end ProjectAnalysis

end AnalysisWebhooks
