import AnalysisWebhooks.Service.AnalysisTasks

namespace AnalysisWebhooks

open Calendar

structure IssueTarget where
  component : Component
  branch : BranchRow BranchKind
  analysis : String
  task : String
  status : TaskStatus
deriving DecidableEq, Repr

namespace IssueTarget

def subject (t : IssueTarget) : Subject :=
  ⟨t.branch.project, some t.task, some t.analysis⟩

def outcome (t : IssueTarget) : ProjectAnalysis where
  task := ⟨t.task, t.status⟩
  project := ⟨t.component.uuid, t.component.key, t.component.name⟩
  branch := some ⟨false, some t.branch.key, .short⟩
  analysis := none
  gate := none
  properties := []
  gated := by simp

end IssueTarget

def lastWith {α κ : Type} [DecidableEq κ] (keyOf : α → κ) (key : κ) (items : List α) : Option α :=
  items.reverse.find? (keyOf · = key)

namespace ChangeSet

def componentUuids (c : ChangeSet) : List RawText :=
  (c.issues.map (·.component)).eraseDups

def missing (c : ChangeSet) : List RawText :=
  c.componentUuids.filter fun uuid => !c.components.any (·.uuid = uuid)

def component? (c : ChangeSet) (stored : List Component) (uuid : RawText) : Option ComponentRef :=
  (lastWith (·.uuid) uuid c.components).or
    ((stored.find? fun row => row.uuid = uuid).map Component.ref)

def branchComponents (c : ChangeSet) (s : Store) : Except Failure (List ComponentRef) := do
  let stored ← s.componentsOf c.missing
  return (c.componentUuids.filterMap (c.component? stored)).filter (·.mainProject.isSome)

end ChangeSet

def enabledConfigurations (s : Store) (components : List ComponentRef) :
    Except Failure (List (String × Configuration)) := do
  let projects ← (components.filterMap (·.mainProject)).eraseDups.mapM RawText.encoded
  return (projects.map fun project =>
    (project, s.configurationFor (some project))).filter fun entry => entry.2.isEnabled

def shortBranches (s : Store) (components : List ComponentRef) :
    Except Failure (List (BranchRow BranchKind)) := do
  let branches ← s.branchesOf (components.map (·.root)).eraseDups
  return branches.filter (·.kind = .short)

structure LastAnalyses where
  roots : List Component
  snapshots : List (SnapshotRow Moment)
  activities : List (ActivityRow TaskStatus Moment)
deriving Repr

def LastAnalyses.ofBranches (s : Store) (branches : List (BranchRow BranchKind)) :
    Except Failure LastAnalyses := do
  let uuids := (branches.map (·.uuid)).eraseDups
  let roots ← s.componentsOf (uuids.map .plain)
  let snapshots ← s.lastAnalysesOf (uuids.map .plain)
  let last := (uuids.filterMap fun uuid => lastWith (·.component) uuid snapshots).map (·.uuid)
  let activities ← s.activitiesOf (last.eraseDups.map .plain)
  return ⟨roots, snapshots, activities⟩

def LastAnalyses.target? (l : LastAnalyses) (branch : BranchRow BranchKind) :
    Option IssueTarget := do
  let component ← lastWith (·.uuid) branch.uuid l.roots
  let snapshot ← lastWith (·.component) branch.uuid l.snapshots
  let activity ← l.activities.reverse.find? (·.analysis = some snapshot.uuid)
  return ⟨component, branch, snapshot.uuid, activity.uuid, activity.status⟩

def resolveBranches (s : Store) (components : List ComponentRef) :
    Except Failure (List (BranchRow BranchKind × Option IssueTarget)) := do
  let branches ← shortBranches s components
  let last ← LastAnalyses.ofBranches s branches
  return branches.map fun branch => (branch, last.target? branch)

structure IssueLookup where
  configurations : List (String × Configuration)
  branches : List (BranchRow BranchKind × Option IssueTarget)
deriving Repr

def ChangeSet.lookUp (c : ChangeSet) (s : Store) : Except Failure (Option IssueLookup) := do
  let components ← c.branchComponents s
  match ← enabledConfigurations s components with
  | [] => return none
  | configurations => return some ⟨configurations, ← resolveBranches s components⟩

def IssueLookup.targets (l : IssueLookup) : List (Configuration × IssueTarget) :=
  l.branches.filterMap fun (_, target?) =>
    target?.bind fun target =>
      (l.configurations.lookup target.branch.project).map fun configuration =>
        (configuration, target)

def logSkipped : List (BranchRow BranchKind × Option IssueTarget) → Action Unit
  | [] => pure ()
  | (branch, target?) :: rest => do
    if target?.isNone then
      Action.log .debug
        ("Short-lived branch " ++ branch.uuid ++ " has no completed analysis, skipping")
    logSkipped rest

def notifyOfBranch (configuration : Configuration) (t : IssueTarget) : Action Bool :=
  let telling : Action Bool := do
    let _ ← dispatch configuration t.subject (makePayload t.outcome)
    Action.measure (.countDecision .issue .dispatched)
    return true
  Action.orElse telling fun _ => do
    Action.measure (.countError .issueWebhooks)
    Action.measure (.countDecision .issue .error)
    Action.log .error
      ("Webhooks for branch " ++ t.branch.key ++ " of project " ++ t.branch.project ++ " failed")
    return false

def notifyOfBranches : List (Configuration × IssueTarget) → Action Nat
  | [] => pure 0
  | (configuration, target) :: rest => do
    let told ← notifyOfBranch configuration target
    let more ← notifyOfBranches rest
    return (if told then 1 else 0) + more

def notifyOfIssues (c : ChangeSet) : Action Nat := do
  let service ← get
  if service.settings.webhooksEnabled then
    match c.lookUp service.store with
    | .error _ =>
      Action.measure (.countError .issueLookup)
      Action.log .error "Failed to resolve short-lived branch analyses"
      return 0
    | .ok none =>
      Action.measure (.countDecision .issue .noWebhooks)
      return 0
    | .ok (some lookup) =>
      logSkipped lookup.branches
      notifyOfBranches lookup.targets
  else
    Action.measure (.countDecision .issue .disabled)
    return 0

def meaningfulTransitions : List RawText :=
  ["resolve", "falsepositive", "wontfix", "reopen"]

def onTransition (c : ChangeSet) (transition : Option RawText) (context : ChangeContext) :
    Action Nat :=
  if c.isEmpty || !transition.any meaningfulTransitions.contains || !context.isUserChange then
    pure 0
  else notifyOfIssues c

def onTypeChange (c : ChangeSet) (type : RawText) (context : ChangeContext) : Action Nat :=
  match context.login with
  | none => pure 0
  | some login =>
    if c.isEmpty then pure 0
    else do
      Action.log .debug ("Issue type changed to " ++ type.shown ++ " by " ++ login.shown)
      notifyOfIssues c

end AnalysisWebhooks
