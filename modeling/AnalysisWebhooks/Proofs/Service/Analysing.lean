import AnalysisWebhooks.Proofs.Service.Recording
import AnalysisWebhooks.Proofs.Store.Insertions

namespace AnalysisWebhooks

open Calendar

namespace FinishedAnalysis

def insertion (f : FinishedAnalysis) (info : AnalysisInfo) : Insertion :=
  ⟨info.uuid.shown, f.report.project.uuid.shown, Store.processed⟩

def insertions (f : FinishedAnalysis) (s : Store) : List Insertion :=
  match f.located s, f.made with
  | .ok branched, some info =>
    match f.recordSnapshot branched with
    | .ok _ => [f.insertion info]
    | .error _ => []
  | _, _ => []

inductive Comes (f : FinishedAnalysis) (now : Moment) (s : Store) : List Insertion → Store → Prop
  | refused {t : Store} (snapshots : t.snapshots = s.snapshots)
      (activities : t.activities = s.activities) : Comes f now s [] t
  | unanalysed {u t : Store} (snapshots : u.snapshots = s.snapshots)
      (activities : u.activities = s.activities) (none : f.made = none)
      (task : f.recordActivity now u = .ok t) : Comes f now s [] t
  | untasked {u t : Store} {info : AnalysisInfo} (snapshots : u.snapshots = s.snapshots)
      (activities : u.activities = s.activities) (made : f.made = some info)
      (analysis : u.withSnapshot info.uuid.shown f.report.project.uuid.shown info.date
        Store.processed = .ok t) : Comes f now s [f.insertion info] t
  | finished {u v t : Store} {info : AnalysisInfo} (snapshots : u.snapshots = s.snapshots)
      (activities : u.activities = s.activities) (made : f.made = some info)
      (analysis : u.withSnapshot info.uuid.shown f.report.project.uuid.shown info.date
        Store.processed = .ok v)
      (task : f.recordActivity now v = .ok t) : Comes f now s [f.insertion info] t

variable {f : FinishedAnalysis} {now : Moment} {s t : Store}

theorem snapshots_located (h : f.located s = .ok t) : t.snapshots = s.snapshots := by
  rw [located_frame h]

theorem insertions_of_not_located {failure : Failure} (h : f.located s = .error failure) :
    f.insertions s = [] := by
  rw [insertions, h]

theorem insertions_of_refused {branched : Store} {failure : Failure}
    (branch : f.located s = .ok branched) (refused : f.recordSnapshot branched = .error failure) :
    f.insertions s = [] := by
  rw [insertions, branch]
  cases made : f.made with
  | none => rfl
  | some info =>
    dsimp only
    rw [refused]

theorem insertions_of_none (none : f.made = none) : f.insertions s = [] := by
  unfold insertions
  rw [none]
  cases f.located s <;> rfl

theorem insertions_of_some {branched : Store} {info : AnalysisInfo}
    (branch : f.located s = .ok branched) (made : f.made = some info)
    (analysis : f.recordSnapshot branched = .ok t) : f.insertions s = [f.insertion info] := by
  rw [insertions, branch, made]
  dsimp only
  rw [analysis]

theorem comes_left (f : FinishedAnalysis) (now : Moment) (s : Store) :
    f.Comes now s (f.insertions s) (f.left now s) := by
  have stages := f.stages_recorded now s
  unfold left
  generalize f.recorded now s = result at stages
  cases stages with
  | @component failure refused =>
    have nowhere : f.located s = .error failure := by rw [located, refused]; rfl
    rw [insertions_of_not_located nowhere]
    exact .refused rfl rfl
  | @branch staged failure component refused =>
    have nowhere : f.located s = .error failure := by
      rw [located, component]
      exact refused
    rw [insertions_of_not_located nowhere, recordComponent_frame component]
    exact .refused rfl rfl
  | analysis branch refused =>
    rw [insertions_of_refused branch refused]
    exact .refused (snapshots_located branch) (activities_located branch)
  | task branch analysis refused =>
    have snapshots := snapshots_located branch
    have activities := activities_located branch
    obtain ⟨none, rfl⟩ | ⟨info, uuid, made, named, inserted⟩ := recordSnapshot_eq_ok analysis
    · rw [insertions_of_none none]
      exact .refused snapshots activities
    · rw [insertions_of_some branch made analysis]
      exact .untasked snapshots activities made (named ▸ inserted)
  | done branch analysis task =>
    have snapshots := snapshots_located branch
    have activities := activities_located branch
    obtain ⟨none, rfl⟩ | ⟨info, uuid, made, named, inserted⟩ := recordSnapshot_eq_ok analysis
    · rw [insertions_of_none none]
      exact .unanalysed snapshots activities none task
    · rw [insertions_of_some branch made analysis]
      exact .finished snapshots activities made (named ▸ inserted) task

theorem snapshots_recordActivity (h : f.recordActivity now s = .ok t) :
    t.snapshots = s.snapshots := by
  obtain ⟨_, _, rfl⟩ := recordActivity_eq_ok h
  rfl

theorem Comes.inserted {inserted insertions : List Insertion} (h : f.Comes now s inserted t)
    (hs : Inserted insertions s.snapshots) : Inserted (inserted ++ insertions) t.snapshots := by
  cases h with
  | refused snapshots _ => exact snapshots ▸ hs
  | unanalysed snapshots _ _ task =>
    rw [snapshots_recordActivity task, snapshots]
    exact hs
  | untasked snapshots _ _ analysis => exact (snapshots ▸ hs).withSnapshot analysis
  | finished snapshots _ _ analysis task =>
    rw [snapshots_recordActivity task]
    exact (snapshots ▸ hs).withSnapshot analysis

theorem Comes.snapshots (h : f.Comes now s [] t) : t.snapshots = s.snapshots := by
  cases h with
  | refused snapshots _ => exact snapshots
  | unanalysed snapshots _ _ task => exact (snapshots_recordActivity task).trans snapshots

end FinishedAnalysis

end AnalysisWebhooks
