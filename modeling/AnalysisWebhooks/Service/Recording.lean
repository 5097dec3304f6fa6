import AnalysisWebhooks.Request.Basic
import AnalysisWebhooks.Service.Basic
import AnalysisWebhooks.Store.Analyses

namespace AnalysisWebhooks

open Calendar

namespace FinishedAnalysis

def sideOf (f : FinishedAnalysis) : Option RawText :=
  match f.report.branch with
  | some b => if b.isMain then none else f.mainProject
  | none => none

def made (f : FinishedAnalysis) : Option AnalysisInfo :=
  if f.allStepsExecuted then f.report.analysis else none

def branchKey (f : FinishedAnalysis) (b : Branch) : RawText :=
  match b.name with
  | some name => if name.isEmpty then f.report.project.key else name
  | none => f.report.project.key

def recordComponent (f : FinishedAnalysis) (s : Store) : Except Failure Store := do
  let p := f.report.project
  return s.withComponent (← p.uuid.encoded) (← p.key.encoded) (← p.name.encoded) none
    (← f.sideOf.mapM RawText.encoded)

def recordBranch (f : FinishedAnalysis) (s : Store) : Except Failure Store :=
  match f.report.branch with
  | none => .ok s
  | some b => do
    let uuid ← f.report.project.uuid.encoded
    match f.sideOf with
    | some main => s.withBranch uuid (← main.encoded) (← (f.branchKey b).encoded) b.kind
    | none => s.withBranch uuid uuid (← (f.branchKey b).encoded) .long

def recordSnapshot (f : FinishedAnalysis) (s : Store) : Except Failure Store :=
  match f.made with
  | none => .ok s
  | some info => do
    -- The date is written before the uuid is bound.
    let _ ← storedDate info.date
    s.withSnapshot (← info.uuid.encoded) (← f.report.project.uuid.encoded) info.date Store.processed

def recordActivity (f : FinishedAnalysis) (now : Moment) (s : Store) : Except Failure Store := do
  let _ ← storedDate now
  s.withActivity now (← f.report.taskId.encoded) (some (← f.report.project.uuid.encoded))
    (.ofSteps f.allStepsExecuted) (← f.made.mapM (·.uuid.encoded)) Store.reportTask none

def record (f : FinishedAnalysis) : Action Unit := do
  Action.change f.recordComponent
  Action.change f.recordBranch
  Action.change f.recordSnapshot
  let now := (← get).clock
  Action.change (f.recordActivity now)

end FinishedAnalysis

end AnalysisWebhooks
