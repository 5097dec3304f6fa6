import AnalysisWebhooks.Proofs.Store.Reading
import AnalysisWebhooks.Service.IssueChanges

namespace AnalysisWebhooks

inductive IssueAction where
  | transition (key : Option RawText)
  | typeChange (type : RawText)
deriving DecidableEq, Repr

namespace IssueAction

def react (action : IssueAction) (c : ChangeSet) (context : ChangeContext) : Action Nat :=
  match action with
  | transition key => onTransition c key context
  | typeChange type => onTypeChange c type context

def IsMeaningful : IssueAction → Prop
  | transition key =>
    key ∈ ["resolve", "falsepositive", "wontfix", "reopen"].map fun name => some (.plain name)
  | typeChange _ => True

instance : (action : IssueAction) → Decidable action.IsMeaningful
  | transition _ => inferInstanceAs (Decidable (_ ∈ _))
  | typeChange _ => inferInstanceAs (Decidable True)

structure Counts (action : IssueAction) (c : ChangeSet) (context : ChangeContext) (s : Service) :
    Prop where
  enabled : s.settings.webhooksEnabled = true
  issues : c.issues ≠ []
  login : context.login.isSome = true
  meaningful : action.IsMeaningful

instance (action : IssueAction) (c : ChangeSet) (context : ChangeContext) (s : Service) :
    Decidable (action.Counts c context s) :=
  decidable_of_iff
    (s.settings.webhooksEnabled = true ∧ c.issues ≠ [] ∧ context.login.isSome = true ∧
      action.IsMeaningful)
    ⟨fun h => ⟨h.1, h.2.1, h.2.2.1, h.2.2.2⟩,
      fun h => ⟨h.enabled, h.issues, h.login, h.meaningful⟩⟩

end IssueAction

structure Notice where
  configuration : Configuration
  subject : Subject
  analysis : ProjectAnalysis
deriving DecidableEq, Repr

def Notice.tell (n : Notice) : Action Unit :=
  Action.orElse (do let _ ← dispatch n.configuration n.subject (makePayload n.analysis))
    fun _ => pure ()

def tellAll : List Notice → Action Unit
  | [] => pure ()
  | n :: rest => do
    n.tell
    tellAll rest

namespace Store

variable (s : Store) (uuid : String)

def lastComponent : Option Component :=
  (s.components.filter (·.uuid = uuid)).getLast?

def lastSnapshot : Option (SnapshotRow String) :=
  (s.snapshots.filter fun row => row.isLast && row.component = uuid).getLast?

def lastActivity (analysis : String) : Option (ActivityRow String String) :=
  (s.activities.filter (·.analysis = some analysis)).getLast?

def notice? (row : BranchRow String) : Option Notice := do
  let component ← s.lastComponent row.uuid
  let snapshot ← s.lastSnapshot row.uuid
  let activity ← s.lastActivity snapshot.uuid
  let status ← TaskStatus.names.lookup activity.status
  return {
    configuration := s.configurationFor (some row.project)
    subject := ⟨row.project, some activity.uuid, some (.plain snapshot.uuid)⟩
    analysis := {
      task := ⟨activity.uuid, status⟩
      project := ⟨component.uuid, component.key, component.name⟩
      branch := some ⟨false, some (.plain row.key), .short⟩
      analysis := none
      gate := none
      properties := []
      gated := by simp } }

def shortBranchRows (roots : List RawText) : List (BranchRow String) :=
  sorted (fun a b => decide (a.uuid ≤ b.uuid)) <|
    s.branches.filter fun row => row.kind = "SHORT" && roots.contains (.plain row.uuid)

structure Readable (roots : List RawText) : Prop where
  branches : ∀ row ∈ s.branches, .plain row.uuid ∈ roots → ∃ b, row.read = .ok b
  snapshots : ∀ branch ∈ s.shortBranchRows roots, ∀ row ∈ s.snapshots,
    row.isLast = true → row.component = branch.uuid → ∃ r, row.read = .ok r
  activities : ∀ branch ∈ s.shortBranchRows roots, ∀ snapshot,
    s.lastSnapshot branch.uuid = some snapshot →
    ∀ row ∈ s.activities, row.analysis = some snapshot.uuid → ∃ r, row.read = .ok r

end Store

namespace ChangeSet

variable (c : ChangeSet) (s : Store)

def componentOf (i : IssueRef) : Option ComponentRef :=
  (c.components.filter (·.uuid = i.component)).getLast?.or
    ((s.components.find? fun row => row.uuid = i.component).map Component.ref)

def touched : List ComponentRef :=
  (c.issues.filterMap (c.componentOf s)).filter (·.mainProject.isSome)

def mainProjects : List RawText :=
  (c.touched s).filterMap (·.mainProject)

def roots : List RawText :=
  (c.touched s).map (·.root)

def notices : List Notice :=
  ((s.shortBranchRows (c.roots s)).filter fun row =>
    (c.mainProjects s).contains (.plain row.project)).filterMap s.notice?

-- What the lookups bind: a text that is no Unicode or one value too many ends them all.
structure Askable : Prop where
  components : Store.Binds c.missing
  mainProjects : ∀ project ∈ c.mainProjects s, project.isUnicode = true
  roots : Store.Binds (c.roots s).eraseDups

end ChangeSet

end AnalysisWebhooks
