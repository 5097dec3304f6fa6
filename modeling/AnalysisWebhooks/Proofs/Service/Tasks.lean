import AnalysisWebhooks.Proofs.Service.Dispatch
import AnalysisWebhooks.Service.IssueChanges

namespace AnalysisWebhooks

open AnalysisWebhooks.Action

variable {sent : String → Prop}

theorem sends_orElse {α : Type} {x : Action α} {handle : Failure → Action α}
    (hx : Moves (Sends sent) x) (hh : ∀ failure, Moves (Sends sent) (handle failure)) :
    Moves (Sends sent) (orElse x handle) :=
  moves_orElse (r := Sends sent) (q := Sends sent) Sends.trans hx hh

theorem sends_dispatch_any (configuration : Configuration) (subject : Subject)
    (a : ProjectAnalysis) :
    Moves (Sends fun _ => True) (dispatch configuration subject (makePayload a)) :=
  fun s => (sends_dispatch configuration subject a s).mono fun _ _ => trivial

theorem sends_notifyOfAnalysis (a : ProjectAnalysis) :
    Moves (Sends fun _ => True) (notifyOfAnalysis a) := by
  unfold notifyOfAnalysis
  refine moves_get_bind fun s => ?_
  split
  · refine sends_bind (moves_obtain Sends.refl _) fun task => sends_bind ?_ fun analysis => ?_
    · exact sends_bind (moves_ask Sends.refl _) fun _ => moves_pure Sends.refl _
    · have telling (project : String) : Moves (Sends fun _ => True) (do
          let configuration ← ask fun store => .ok (store.configurationFor (some project))
          let telling : Action Unit := do
            let _ ← dispatch configuration ⟨project, some task, analysis⟩ (makePayload a)
            measure (.countDecision .analysis .dispatched)
          orElse telling fun failure => do
            measure (.countError .analysisWebhooks)
            measure (.countDecision .analysis .error)
            throw failure) := by
        refine sends_bind (moves_ask Sends.refl _) fun _ => sends_orElse ?_ fun failure => ?_
        · exact sends_bind (sends_dispatch_any _ _ a) fun _ => sends_measure _
        · exact sends_bind (sends_measure _) fun _ => sends_bind (sends_measure _) fun _ =>
            moves_throw Sends.refl failure
      dsimp only
      split
      · exact sends_bind (sends_log _ _) fun _ => sends_bind (moves_obtain Sends.refl _) telling
      · exact sends_bind (moves_obtain Sends.refl _) telling
  · exact sends_measure _

theorem sends_finish (report : AnalysisReport) (allStepsExecuted : Bool) :
    Moves (Sends fun _ => True) (finish [webhookTask] report allStepsExecuted) := by
  have attempt : Moves (Sends fun _ => True)
      (webhookTask.attempt (report.outcome allStepsExecuted)) :=
    sends_orElse (sends_notifyOfAnalysis _) fun _ =>
      sends_bind (sends_measure _) fun _ => sends_log _ _
  exact sends_bind (sends_bind attempt fun _ => moves_pure Sends.refl _) fun _ =>
    moves_pure Sends.refl _

theorem sends_notifyOfBranch (configuration : Configuration) (t : IssueTarget) :
    Moves (Sends fun _ => True) (notifyOfBranch configuration t) :=
  sends_orElse (sends_bind (sends_dispatch_any _ _ _) fun _ =>
    sends_bind (sends_measure _) fun _ => moves_pure Sends.refl _) fun _ =>
      sends_bind (sends_measure _) fun _ => sends_bind (sends_measure _) fun _ =>
        sends_bind (sends_log _ _) fun _ => moves_pure Sends.refl _

theorem sends_notifyOfBranches (targets : List (Configuration × IssueTarget)) :
    Moves (Sends fun _ => True) (notifyOfBranches targets) := by
  induction targets with
  | nil => exact moves_pure Sends.refl _
  | cons first rest ih =>
    exact sends_bind (sends_notifyOfBranch _ _) fun _ => sends_bind ih fun _ =>
      moves_pure Sends.refl _

theorem sends_logSkipped (branches : List (BranchRow BranchKind × Option IssueTarget)) :
    Moves (Sends sent) (logSkipped branches) := by
  induction branches with
  | nil => exact moves_pure Sends.refl _
  | cons first rest ih =>
    obtain ⟨branch, _ | target⟩ := first
    · exact sends_bind (sends_log _ _) fun _ => ih
    · exact ih

theorem sends_notifyOfIssues (c : ChangeSet) : Moves (Sends fun _ => True) (notifyOfIssues c) := by
  unfold notifyOfIssues
  refine moves_get_bind fun s => ?_
  split
  · split
    · exact sends_bind (sends_measure _) fun _ => sends_bind (sends_log _ _) fun _ =>
        moves_pure Sends.refl _
    · exact sends_bind (sends_measure _) fun _ => moves_pure Sends.refl _
    · exact sends_bind (sends_logSkipped _) fun _ => sends_notifyOfBranches _
  · exact sends_bind (sends_measure _) fun _ => moves_pure Sends.refl _

theorem sends_onTransition (c : ChangeSet) (transition : Option RawText) (context : ChangeContext) :
    Moves (Sends fun _ => True) (onTransition c transition context) := by
  unfold onTransition
  split
  · exact moves_pure Sends.refl _
  · exact sends_notifyOfIssues c

theorem sends_onTypeChange (c : ChangeSet) (type : RawText) (context : ChangeContext) :
    Moves (Sends fun _ => True) (onTypeChange c type context) := by
  unfold onTypeChange
  split
  · exact moves_pure Sends.refl _
  · split
    · exact moves_pure Sends.refl _
    · exact sends_bind (sends_log _ _) fun _ => sends_notifyOfIssues c

end AnalysisWebhooks
