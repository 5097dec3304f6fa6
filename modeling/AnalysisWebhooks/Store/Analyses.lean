import AnalysisWebhooks.Store.Basic
import AnalysisWebhooks.Store.Sorted

namespace AnalysisWebhooks.Store

open Calendar

def withComponent (s : Store) (uuid key name : String) (root mainProject : Option String) : Store :=
  let root := match root with
    | some root => if root.isEmpty then uuid else root
    | none => uuid
  let row : Component := ⟨uuid, key, name, root, mainProject⟩
  { s with components := upserted (·.uuid = uuid) (fun _ => row) row s.components }

def withBranch (s : Store) (uuid project key : String) (kind : BranchKind) :
    Except Failure Store :=
  if s.branches.any fun b => b.uuid ≠ uuid && b.project = project && b.key = key then
    .error (.duplicate "project_branches" ["project_uuid", "kee"])
  else
    let row : BranchRow String := ⟨uuid, project, key, kind.name⟩
    .ok { s with branches := upserted (·.uuid = uuid) (fun _ => row) row s.branches }

def processed : String := "P"

def withSnapshot (s : Store) (uuid component : String) (date : Moment) (status : String) :
    Except Failure Store := do
  let createdAt ← storedDate date
  let isLast := status = processed
  if s.snapshots.any (·.uuid = uuid) then throw (.duplicate "snapshots" ["uuid"])
  let earlier := if isLast then
    s.snapshots.map fun row =>
      if row.component = component then { row with isLast := false } else row
    else s.snapshots
  return { s with snapshots := earlier ++ [⟨uuid, component, status, isLast, createdAt⟩] }

def reportTask : String := "REPORT"

def withActivity (s : Store) (now : Moment) (uuid : String) (component : Option String)
    (status : TaskStatus) (analysis : Option String) (taskType : String)
    (submittedAt : Option Moment) : Except Failure Store := do
  let executedAt ← storedDate now
  let submitted ← match submittedAt with
    | some date => storedDate date
    | none => pure executedAt
  let earlier := s.activities.map fun row =>
    if component.isSome && row.component = component && row.taskType = taskType then
      { row with isLast := false } else row
  let row : ActivityRow String String :=
    ⟨uuid, taskType, component, analysis, status.name, true, submitted, some executedAt⟩
  let merge (old : ActivityRow String String) : ActivityRow String String :=
    { old with analysis, status := status.name, isLast := true, executedAt := some executedAt }
  return { s with activities := upserted (·.uuid = uuid) merge row earlier }

-- How many host parameters one statement of the database takes.
def parameterLimit : Nat := 32766

def bound (values : List RawText) : Except Failure (List String) :=
  if parameterLimit < values.length then .error .tooManyValues else values.mapM RawText.encoded

def rowsOf {α : Type} (keyOf : α → String) (keys : List String) (rows : List α) : List α :=
  sorted (fun a b => decide (keyOf a ≤ keyOf b)) (rows.filter fun row => keys.contains (keyOf row))

def componentsOf (s : Store) (uuids : List RawText) : Except Failure (List Component) := do
  return rowsOf (·.uuid) (← bound uuids) s.components

def branchesOf (s : Store) (uuids : List RawText) :
    Except Failure (List (BranchRow BranchKind)) := do
  (rowsOf (·.uuid) (← bound uuids) s.branches).mapM BranchRow.read

def lastAnalysesOf (s : Store) (components : List RawText) :
    Except Failure (List (SnapshotRow Moment)) := do
  (rowsOf (·.component) (← bound components) (s.snapshots.filter (·.isLast))).mapM SnapshotRow.read

def activity? (s : Store) (uuid : String) :
    Except Failure (Option (ActivityRow TaskStatus Moment)) :=
  match s.activities.find? (·.uuid = uuid) with
  | some row => some <$> row.read
  | none => .ok none

def activitiesOf (s : Store) (analyses : List RawText) :
    Except Failure (List (ActivityRow TaskStatus Moment)) := do
  (rowsOf (fun row => row.analysis.getD "") (← bound analyses)
    (s.activities.filter (·.analysis.isSome))).mapM ActivityRow.read

end AnalysisWebhooks.Store
