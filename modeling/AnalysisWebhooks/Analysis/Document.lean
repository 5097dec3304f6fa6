import AnalysisWebhooks.Analysis.Basic
import AnalysisWebhooks.Check.Record
import AnalysisWebhooks.Check.Scalar

namespace AnalysisWebhooks

open Check

namespace Task

def keys : List Key := [.word "id", .word "status"]

def read : Json → Check Task :=
  record "CeTask" <| closed keys fun m =>
    Task.mk <$> required (.word "id") text m
      <*> required (.word "status") (oneOf TaskStatus.names) m

end Task

namespace Project

def keys : List Key := [.word "uuid", .word "key", .word "name"]

def read : Json → Check Project :=
  record "Project" <| closed keys fun m =>
    Project.mk <$> required (.word "uuid") text m
      <*> required (.word "key") text m
      <*> required (.word "name") text m

end Project

namespace Branch

def mainKey : Key := ⟨"isMain", "is_main"⟩

def keys : List Key := [mainKey, .word "name", .word "type"]

def read : Json → Check Branch :=
  record "Branch" <| closed keys fun m =>
    Branch.mk <$> required mainKey boolean m
      <*> maybe (.word "name") text m
      <*> required (.word "type") (oneOf BranchKind.names) m

end Branch

namespace Condition

def metricKey : Key := ⟨"metricKey", "metric_key"⟩

def errorKey : Key := ⟨"errorThreshold", "error_threshold"⟩

def warningKey : Key := ⟨"warningThreshold", "warning_threshold"⟩

def leakKey : Key := ⟨"onLeakPeriod", "on_leak_period"⟩

def keys : List Key :=
  [.word "status", metricKey, .word "operator", errorKey, warningKey, leakKey, .word "value"]

def withoutIdleValue (m : Json.Members) : Json.Members :=
  match Json.get? m "status" with
  | some (.text status) =>
    if status = Measure.noValue.statusName then m.filter (·.1 ≠ "value") else m
  | _ => m

structure Fields where
  status : Option GateStatus
  metric : RawText
  operator : Operator
  errorThreshold : Option RawText
  warningThreshold : Option RawText
  onLeakPeriod : Bool
  value : Option RawText
deriving DecidableEq, Repr

def Fields.read : Json.Members → Check Fields :=
  closed keys fun m =>
    Fields.mk <$> required (.word "status") (oneOf Measure.statusNames) m
      <*> required metricKey text m
      <*> required (.word "operator") (oneOf Operator.names) m
      <*> maybe errorKey text m
      <*> maybe warningKey text m
      <*> optional leakKey false boolean m
      <*> maybe (.word "value") text m

def Fields.measure? (f : Fields) : Option Measure :=
  match f.status, f.value with
  | none, _ => some .noValue
  | some status, some text => some (.value status text)
  | some _, none => none

def ofFields (f : Fields) : Check Condition :=
  if h : f.errorThreshold.isSome ∨ f.warningThreshold.isSome then
    match f.measure? with
    | some measure => ok {
        metric := f.metric
        operator := f.operator
        measure
        onLeakPeriod := f.onLeakPeriod
        errorThreshold := f.errorThreshold
        warningThreshold := f.warningThreshold
        bounded := h }
    | none => fail (.rule ("Condition on " ++ f.metric.shown ++ " must carry a value"))
  else
    fail (.rule "At least one of error_threshold and warning_threshold must be set")

def read : Json → Check Condition :=
  record "Condition" fun m => (Fields.read (withoutIdleValue m)).andThen ofFields

end Condition

namespace QualityGate

def keys : List Key := [.word "id", .word "name", .word "status", .word "conditions"]

def read : Json → Check QualityGate :=
  record "QualityGate" <| closed keys fun m =>
    QualityGate.mk <$> required (.word "id") text m
      <*> required (.word "name") text m
      <*> required (.word "status") (oneOf GateStatus.names) m
      <*> optional (.word "conditions") [] (sequence Condition.read) m

end QualityGate

namespace AnalysisInfo

def keys : List Key := [.word "uuid", .word "date"]

def read : Json → Check AnalysisInfo :=
  record "AnalysisInfo" <| closed keys fun m =>
    AnalysisInfo.mk <$> required (.word "uuid") text m
      <*> required (.word "date") moment m

end AnalysisInfo

def gateKey : Key := ⟨"qualityGate", "quality_gate"⟩

def propertiesKey : Key := ⟨"scannerProperties", "scanner_properties"⟩

namespace ProjectAnalysis

def taskKey : Key := ⟨"ceTask", "ce_task"⟩

def keys : List Key :=
  [taskKey, .word "project", .word "branch", .word "analysis", gateKey, propertiesKey]

def ofParts (task : Task) (project : Project) (branch : Option Branch)
    (analysis : Option AnalysisInfo) (gate : Option QualityGate)
    (properties : List (RawText × RawText)) : Check ProjectAnalysis :=
  if h : gate.isSome → task.status = .success then
    ok ⟨task, project, branch, analysis, gate, properties, h⟩
  else fail (.rule "A quality gate is only available for successful tasks")

def read : Json → Check ProjectAnalysis :=
  record "ProjectAnalysis" fun m =>
    (closed keys (fun m =>
      ofParts <$> required taskKey Task.read m
        <*> required (.word "project") Project.read m
        <*> maybe (.word "branch") Branch.read m
        <*> maybe (.word "analysis") AnalysisInfo.read m
        <*> maybe gateKey QualityGate.read m
        <*> optional propertiesKey [] (mapping text) m) m).andThen id

end ProjectAnalysis

namespace AnalysisReport

def taskKey : Key := ⟨"ceTaskId", "ce_task_id"⟩

def keys : List Key :=
  [taskKey, .word "project", .word "branch", .word "analysis", gateKey, propertiesKey]

def ofMembers (m : Json.Members) : Check AnalysisReport :=
  AnalysisReport.mk <$> required taskKey text m
    <*> required (.word "project") Project.read m
    <*> maybe (.word "branch") Branch.read m
    <*> maybe (.word "analysis") AnalysisInfo.read m
    <*> maybe gateKey QualityGate.read m
    <*> optional propertiesKey [] (mapping text) m

def read : Json → Check AnalysisReport :=
  record "AnalysisReport" (closed keys ofMembers)

end AnalysisReport

end AnalysisWebhooks
