import AnalysisWebhooks.Proofs.Service.Run
import AnalysisWebhooks.Proofs.Store.Edits
import AnalysisWebhooks.Proofs.Store.Tasks
import AnalysisWebhooks.Proofs.Text.Encoding
import AnalysisWebhooks.Service.Recording

namespace AnalysisWebhooks

open AnalysisWebhooks.Action Calendar

namespace FinishedAnalysis

variable (f : FinishedAnalysis)

def located (s : Store) : Except Failure Store := do
  f.recordBranch (← f.recordComponent s)

def recorded (now : Moment) (s : Store) : Except (Failure × Store) Store :=
  match f.recordComponent s with
  | .error failure => .error (failure, s)
  | .ok s =>
    match f.recordBranch s with
    | .error failure => .error (failure, s)
    | .ok s =>
      match f.recordSnapshot s with
      | .error failure => .error (failure, s)
      | .ok s =>
        match f.recordActivity now s with
        | .error failure => .error (failure, s)
        | .ok s => .ok s

theorem record_apply (s : Service) :
    f.record s = match f.recorded s.clock s.store with
      | .ok store => .ok ⟨⟩ { s with store }
      | .error (failure, store) => .error failure { s with store } := by
  unfold record recorded
  rw [change_bind]
  cases f.recordComponent s.store with
  | error failure => rfl
  | ok staged =>
    dsimp only
    rw [change_bind]
    dsimp only
    cases f.recordBranch staged with
    | error failure => rfl
    | ok branched =>
      dsimp only
      rw [change_bind]
      dsimp only
      cases f.recordSnapshot branched with
      | error failure => rfl
      | ok analysed =>
        dsimp only
        rw [get_bind, change_apply]
        dsimp only
        cases f.recordActivity s.clock analysed <;> rfl

def taskRow (submitted executed : String) : ActivityRow String String :=
  ⟨f.report.taskId.shown, Store.reportTask, some f.report.project.uuid.shown,
    f.made.map (·.uuid.shown), (TaskStatus.ofSteps f.allStepsExecuted).name, true, submitted,
    some executed⟩

theorem made_eq_some (info : AnalysisInfo) :
    f.made = some info ↔ f.allStepsExecuted = true ∧ f.report.analysis = some info := by
  rw [FinishedAnalysis.made]
  cases f.allStepsExecuted <;> simp

variable {f} {now : Moment} {s t : Store}

theorem recordComponent_eq_ok (h : f.recordComponent s = .ok t) :
    ∃ uuid key name main, f.report.project = ⟨.plain uuid, .plain key, .plain name⟩ ∧
      f.sideOf = main.map .plain ∧ t = s.withComponent uuid key name none main := by
  obtain ⟨uuid, huuid, h⟩ := bind_eq_ok.1 h
  obtain ⟨key, hkey, h⟩ := bind_eq_ok.1 h
  obtain ⟨name, hname, h⟩ := bind_eq_ok.1 h
  obtain ⟨main, hmain, h⟩ := bind_eq_ok.1 h
  cases h
  refine ⟨uuid, key, name, main, ?_, RawText.option_mapM_encoded_eq_ok.1 hmain, rfl⟩
  rw [← RawText.encoded_eq_ok.1 huuid, ← RawText.encoded_eq_ok.1 hkey,
    ← RawText.encoded_eq_ok.1 hname]

theorem recordBranch_eq_ok (h : f.recordBranch s = .ok t) :
    t = s ∨ ∃ project key kind,
      s.withBranch f.report.project.uuid.shown project key kind = .ok t := by
  unfold recordBranch at h
  split at h
  · cases h
    exact .inl rfl
  · obtain ⟨uuid, huuid, h⟩ := bind_eq_ok.1 h
    rw [RawText.encoded_eq_ok.1 huuid]
    split at h
    · obtain ⟨main, -, h⟩ := bind_eq_ok.1 h
      obtain ⟨key, -, h⟩ := bind_eq_ok.1 h
      exact .inr ⟨_, _, _, h⟩
    · obtain ⟨key, -, h⟩ := bind_eq_ok.1 h
      exact .inr ⟨_, _, _, h⟩

theorem recordSnapshot_eq_ok (h : f.recordSnapshot s = .ok t) :
    (f.made = none ∧ t = s) ∨ ∃ info uuid, f.made = some info ∧ info.uuid = .plain uuid ∧
      s.withSnapshot uuid f.report.project.uuid.shown info.date Store.processed = .ok t := by
  unfold recordSnapshot at h
  split at h
  · cases h
    exact .inl ⟨‹_›, rfl⟩
  · obtain ⟨_, -, h⟩ := bind_eq_ok.1 h
    obtain ⟨uuid, huuid, h⟩ := bind_eq_ok.1 h
    obtain ⟨project, hproject, h⟩ := bind_eq_ok.1 h
    rw [RawText.encoded_eq_ok.1 hproject]
    exact .inr ⟨_, uuid, ‹_›, RawText.encoded_eq_ok.1 huuid, h⟩

theorem analysis_taskRow (submitted executed : String) :
    (f.taskRow submitted executed).analysis = f.made.map (·.uuid.shown) := rfl

theorem status_taskRow {info : AnalysisInfo} (made : f.made = some info)
    (submitted executed : String) :
    (f.taskRow submitted executed).status = TaskStatus.success.name := by
  unfold FinishedAnalysis.made at made
  split at made
  · rename_i all
    rw [taskRow, TaskStatus.ofSteps, if_pos all]
  · cases made

theorem recordActivity_encodes (h : f.recordActivity now s = .ok t) :
    ∃ task project made, f.report.taskId = .plain task ∧ f.report.project.uuid = .plain project ∧
      f.made.mapM (·.uuid.encoded) = .ok made ∧
      s.withActivity now task (some project) (.ofSteps f.allStepsExecuted) made Store.reportTask
        none = .ok t := by
  obtain ⟨_, -, h⟩ := bind_eq_ok.1 h
  obtain ⟨task, htask, h⟩ := bind_eq_ok.1 h
  obtain ⟨project, hproject, h⟩ := bind_eq_ok.1 h
  obtain ⟨made, hmade, h⟩ := bind_eq_ok.1 h
  exact ⟨task, project, made, RawText.encoded_eq_ok.1 htask, RawText.encoded_eq_ok.1 hproject,
    hmade, h⟩

theorem made_of_encoded {made : Option String} (h : f.made.mapM (·.uuid.encoded) = .ok made) :
    f.made.map (·.uuid) = made.map .plain := by
  cases hmade : f.made with
  | none =>
    rw [hmade] at h
    cases h
    rfl
  | some info =>
    rw [hmade, Option.mapM_some] at h
    obtain ⟨uuid, huuid, h⟩ := map_eq_ok.1 h
    cases h
    rw [Option.map_some, RawText.encoded_eq_ok.1 huuid]
    rfl

theorem recordActivity_eq_ok (h : f.recordActivity now s = .ok t) :
    ∃ submitted executed,
      t = { s with activities := reported (f.taskRow submitted executed) s.activities } := by
  obtain ⟨task, project, made, htask, hproject, hmade, h⟩ := recordActivity_encodes h
  have shown : f.made.map (·.uuid.shown) = made := by
    have named := congrArg (Option.map RawText.shown) (made_of_encoded hmade)
    rw [Option.map_map, Option.map_map] at named
    exact named.trans (congrFun Option.map_id made)
  obtain ⟨executed, submitted, -, -, ht⟩ := withActivity_eq_ok h
  refine ⟨submitted, executed, ?_⟩
  rw [taskRow, htask, hproject, shown]
  exact ht

theorem recordComponent_frame (h : f.recordComponent s = .ok t) :
    t = { s with components := t.components } := by
  obtain ⟨_, _, _, _, -, -, rfl⟩ := recordComponent_eq_ok h
  rfl

theorem recordBranch_frame (h : f.recordBranch s = .ok t) :
    t = { s with branches := t.branches } := by
  obtain rfl | ⟨project, key, kind, h⟩ := recordBranch_eq_ok h
  · rfl
  · rw [Store.withBranch_eq_ok h]

theorem located_eq_ok : f.located s = .ok t ↔
    ∃ staged, f.recordComponent s = .ok staged ∧ f.recordBranch staged = .ok t :=
  bind_eq_ok

theorem located_frame (h : f.located s = .ok t) :
    t = { s with components := t.components, branches := t.branches } := by
  obtain ⟨staged, component, branch⟩ := located_eq_ok.1 h
  rw [recordBranch_frame branch, recordComponent_frame component]

theorem recordSnapshot_frame (h : f.recordSnapshot s = .ok t) :
    t = { s with snapshots := t.snapshots } := by
  obtain ⟨-, rfl⟩ | ⟨info, uuid, -, -, h⟩ := recordSnapshot_eq_ok h
  · rfl
  · obtain ⟨createdAt, -, ht⟩ := Store.withSnapshot_eq_ok h
    rw [ht]

theorem edits_recordComponent (now : Moment) (h : f.recordComponent s = .ok t) :
    Store.Edits now s t := by
  obtain ⟨_, _, _, _, -, -, rfl⟩ := recordComponent_eq_ok h
  exact .single (.component ..)

theorem edits_recordBranch (now : Moment) (h : f.recordBranch s = .ok t) :
    Store.Edits now s t := by
  obtain rfl | ⟨project, key, kind, h⟩ := recordBranch_eq_ok h
  · exact .refl
  · exact .single (.branch h)

theorem edits_located (now : Moment) (h : f.located s = .ok t) : Store.Edits now s t := by
  obtain ⟨staged, component, branch⟩ := located_eq_ok.1 h
  exact (edits_recordComponent now component).trans (edits_recordBranch now branch)

theorem edits_recordSnapshot (now : Moment) (h : f.recordSnapshot s = .ok t) :
    Store.Edits now s t := by
  obtain ⟨-, rfl⟩ | ⟨info, uuid, -, -, h⟩ := recordSnapshot_eq_ok h
  · exact .refl
  · exact .single (.snapshot h)

inductive Stages (f : FinishedAnalysis) (now : Moment) (s : Store) :
    Except (Failure × Store) Store → Prop
  | component {failure : Failure} (refused : f.recordComponent s = .error failure) :
      Stages f now s (.error (failure, s))
  | branch {staged : Store} {failure : Failure} (component : f.recordComponent s = .ok staged)
      (refused : f.recordBranch staged = .error failure) : Stages f now s (.error (failure, staged))
  | analysis {branched : Store} {failure : Failure} (branch : f.located s = .ok branched)
      (refused : f.recordSnapshot branched = .error failure) :
      Stages f now s (.error (failure, branched))
  | task {branched analysed : Store} {failure : Failure} (branch : f.located s = .ok branched)
      (analysis : f.recordSnapshot branched = .ok analysed)
      (refused : f.recordActivity now analysed = .error failure) :
      Stages f now s (.error (failure, analysed))
  | done {branched analysed t : Store} (branch : f.located s = .ok branched)
      (analysis : f.recordSnapshot branched = .ok analysed)
      (task : f.recordActivity now analysed = .ok t) : Stages f now s (.ok t)

theorem stages_recorded (f : FinishedAnalysis) (now : Moment) (s : Store) :
    f.Stages now s (f.recorded now s) := by
  unfold recorded
  cases component : f.recordComponent s with
  | error failure => exact .component component
  | ok staged =>
    dsimp only
    cases branch : f.recordBranch staged with
    | error failure => exact .branch component branch
    | ok branched =>
      have located : f.located s = .ok branched := located_eq_ok.2 ⟨staged, component, branch⟩
      dsimp only
      cases analysis : f.recordSnapshot branched with
      | error failure => exact .analysis located analysis
      | ok analysed =>
        dsimp only
        cases task : f.recordActivity now analysed with
        | error failure => exact .task located analysis task
        | ok done => exact .done located analysis task

theorem recorded_eq_ok (h : f.recorded now s = .ok t) :
    ∃ branched analysed, f.located s = .ok branched ∧
      f.recordSnapshot branched = .ok analysed ∧ f.recordActivity now analysed = .ok t := by
  have stages := f.stages_recorded now s
  rw [h] at stages
  cases stages with
  | done branch analysis task => exact ⟨_, _, branch, analysis, task⟩

theorem activities_located (h : f.located s = .ok t) : t.activities = s.activities := by
  rw [located_frame h]

theorem activities_recordSnapshot (h : f.recordSnapshot s = .ok t) :
    t.activities = s.activities := by
  rw [recordSnapshot_frame h]

theorem recorded_cases (f : FinishedAnalysis) (now : Moment) (s : Store) :
    (∃ u t, f.recorded now s = .ok t ∧ Store.Edits now s u ∧ u.activities = s.activities ∧
      f.recordActivity now u = .ok t) ∨
    ∃ failure t, f.recorded now s = .error (failure, t) ∧ Store.Edits now s t ∧
      t.activities = s.activities := by
  have stages := f.stages_recorded now s
  generalize f.recorded now s = result at stages
  cases stages with
  | component refused => exact .inr ⟨_, _, rfl, .refl, rfl⟩
  | branch component refused =>
    exact .inr ⟨_, _, rfl, edits_recordComponent now component, by
      rw [recordComponent_frame component]⟩
  | analysis branch refused =>
    exact .inr ⟨_, _, rfl, edits_located now branch, activities_located branch⟩
  | task branch analysis refused =>
    have edits := (edits_located now branch).trans (edits_recordSnapshot now analysis)
    have same := (activities_recordSnapshot analysis).trans (activities_located branch)
    exact .inr ⟨_, _, rfl, edits, same⟩
  | done branch analysis task =>
    have edits := (edits_located now branch).trans (edits_recordSnapshot now analysis)
    have same := (activities_recordSnapshot analysis).trans (activities_located branch)
    exact .inl ⟨_, _, rfl, edits, same, task⟩

def taskReports (f : FinishedAnalysis) (now : Moment) (s : Store) : List TaskReport :=
  match f.recorded now s with
  | .ok _ => [⟨f.report.taskId.shown, some f.report.project.uuid.shown, Store.reportTask⟩]
  | .error _ => []

def left (f : FinishedAnalysis) (now : Moment) (s : Store) : Store :=
  match f.recorded now s with
  | .ok t => t
  | .error (_, t) => t

theorem after_record (f : FinishedAnalysis) (s : Service) :
    f.record.after s = { s with store := f.left s.clock s.store } := by
  rw [after, record_apply, left]
  cases f.recorded s.clock s.store <;> rfl

theorem left_frame (f : FinishedAnalysis) (now : Moment) (s : Store) :
    (f.left now s).properties = s.properties ∧ (f.left now s).deliveries = s.deliveries := by
  have stages := f.stages_recorded now s
  unfold left
  generalize f.recorded now s = result at stages
  cases stages with
  | component refused => exact ⟨rfl, rfl⟩
  | branch component refused =>
    rw [recordComponent_frame component]
    exact ⟨rfl, rfl⟩
  | analysis branch refused =>
    rw [located_frame branch]
    exact ⟨rfl, rfl⟩
  | task branch analysis refused =>
    rw [recordSnapshot_frame analysis, located_frame branch]
    exact ⟨rfl, rfl⟩
  | done branch analysis task =>
    obtain ⟨submitted, executed, rfl⟩ := recordActivity_eq_ok task
    rw [recordSnapshot_frame analysis, located_frame branch]
    exact ⟨rfl, rfl⟩

theorem edits_left (f : FinishedAnalysis) (now : Moment) (s : Store) :
    Store.Edits now s (f.left now s) := by
  unfold left
  obtain ⟨u, t, h, edits, -, hactivity⟩ | ⟨failure, t, h, edits, -⟩ := f.recorded_cases now s
  · obtain ⟨_, _, _, -, -, -, hactivity⟩ := recordActivity_encodes hactivity
    rw [h]
    exact edits.tail (.activity hactivity)
  · rw [h]
    exact edits

theorem told_left {reports : List TaskReport} (h : Told reports s.activities) :
    Told (f.taskReports now s ++ reports) (f.left now s).activities := by
  unfold left taskReports
  obtain ⟨u, t, hrec, -, same, hactivity⟩ | ⟨failure, t, hrec, -, same⟩ := f.recorded_cases now s
  · rw [hrec]
    rw [← same] at h
    obtain ⟨task, project, made, htask, hproject, -, hactivity⟩ := recordActivity_encodes hactivity
    rw [htask, hproject]
    exact h.withActivity hactivity
  · rw [hrec]
    dsimp only
    rw [same]
    exact h

end FinishedAnalysis

end AnalysisWebhooks
