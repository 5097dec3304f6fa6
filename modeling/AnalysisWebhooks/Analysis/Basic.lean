import AnalysisWebhooks.Calendar.Moment
import AnalysisWebhooks.Text.Raw

namespace AnalysisWebhooks

open Calendar

inductive TaskStatus where
  | success
  | failed
deriving DecidableEq, Repr

namespace TaskStatus

def name : TaskStatus → String
  | success => "SUCCESS"
  | failed => "FAILED"

def names : List (String × TaskStatus) :=
  [success, failed].map fun status => (status.name, status)

theorem lookup_name (status : TaskStatus) : names.lookup status.name = some status := by
  cases status <;> decide

def ofSteps (allExecuted : Bool) : TaskStatus :=
  if allExecuted then success else failed

end TaskStatus

inductive BranchKind where
  | long
  | short
deriving DecidableEq, Repr

namespace BranchKind

def name : BranchKind → String
  | long => "LONG"
  | short => "SHORT"

def names : List (String × BranchKind) :=
  [long, short].map fun kind => (kind.name, kind)

theorem lookup_name (kind : BranchKind) : names.lookup kind.name = some kind := by
  cases kind <;> decide

end BranchKind

inductive GateStatus where
  | ok
  | warn
  | error
deriving DecidableEq, Repr

namespace GateStatus

def name : GateStatus → String
  | ok => "OK"
  | warn => "WARN"
  | error => "ERROR"

def names : List (String × GateStatus) :=
  [ok, warn, error].map fun status => (status.name, status)

end GateStatus

inductive Operator where
  | equals
  | notEquals
  | greaterThan
  | lessThan
deriving DecidableEq, Repr

namespace Operator

def name : Operator → String
  | equals => "EQUALS"
  | notEquals => "NOT_EQUALS"
  | greaterThan => "GREATER_THAN"
  | lessThan => "LESS_THAN"

def names : List (String × Operator) :=
  [equals, notEquals, greaterThan, lessThan].map fun operator => (operator.name, operator)

end Operator

structure Task where
  id : RawText
  status : TaskStatus
deriving DecidableEq, Repr

structure Project where
  uuid : RawText
  key : RawText
  name : RawText
deriving DecidableEq, Repr

structure Branch where
  isMain : Bool
  name : Option RawText
  kind : BranchKind
deriving DecidableEq, Repr

inductive Measure where
  | noValue
  | value (status : GateStatus) (text : RawText)
deriving DecidableEq, Repr

namespace Measure

def statusName : Measure → String
  | noValue => "NO_VALUE"
  | value status _ => status.name

def text? : Measure → Option RawText
  | noValue => none
  | value _ text => some text

def statusNames : List (String × Option GateStatus) :=
  (noValue.statusName, none) :: GateStatus.names.map fun (name, status) => (name, some status)

end Measure

structure Condition where
  metric : RawText
  operator : Operator
  measure : Measure
  onLeakPeriod : Bool
  errorThreshold : Option RawText
  warningThreshold : Option RawText
  bounded : errorThreshold.isSome ∨ warningThreshold.isSome
deriving DecidableEq, Repr

structure QualityGate where
  id : RawText
  name : RawText
  status : GateStatus
  conditions : List Condition
deriving DecidableEq, Repr

structure AnalysisInfo where
  uuid : RawText
  date : Moment
deriving DecidableEq, Repr

structure ProjectAnalysis where
  task : Task
  project : Project
  branch : Option Branch
  analysis : Option AnalysisInfo
  gate : Option QualityGate
  properties : List (RawText × RawText)
  gated : gate.isSome → task.status = .success
deriving DecidableEq, Repr

structure AnalysisReport where
  taskId : RawText
  project : Project
  branch : Option Branch
  analysis : Option AnalysisInfo
  gate : Option QualityGate
  properties : List (RawText × RawText)
deriving DecidableEq, Repr

def AnalysisReport.outcome (report : AnalysisReport) : (allStepsExecuted : Bool) → ProjectAnalysis
  | true => {
      task := ⟨report.taskId, .success⟩
      project := report.project
      branch := report.branch
      analysis := report.analysis
      gate := report.gate
      properties := report.properties
      gated := fun _ => rfl }
  | false => {
      task := ⟨report.taskId, .failed⟩
      project := report.project
      branch := report.branch
      analysis := report.analysis
      gate := none
      properties := report.properties
      gated := by simp }

end AnalysisWebhooks
