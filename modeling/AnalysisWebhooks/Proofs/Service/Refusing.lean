import AnalysisWebhooks.Proofs.Service.Recording
import AnalysisWebhooks.Proofs.Store.Written
import AnalysisWebhooks.Web.Handler

namespace AnalysisWebhooks

open AnalysisWebhooks.Action Calendar

theorem exists_toUtc? {m : Moment} :
    (∃ u, m.toUtc? = some u) ↔ 0 ≤ m.instant ∧ m.instant < span := by
  unfold Moment.toUtc? Moment.ofWall?
  split
  · rename_i h
    refine iff_of_true ⟨_, rfl⟩ ?_
    omega
  · rename_i h
    simp only [reduceCtorEq, exists_false, false_iff]
    omega

theorem exists_storedDate {m : Moment} :
    (∃ text, storedDate m = .ok text) ↔ 0 ≤ m.instant ∧ m.instant < span := by
  simp only [← exists_toUtc?, storedDate_eq_ok]
  constructor
  · rintro ⟨_, u, hu, -⟩
    exact ⟨u, hu⟩
  · rintro ⟨u, hu⟩
    exact ⟨_, u, hu, rfl⟩

section Upserted

variable {α : Type} {p q : α → Bool} {merge : α → α} {fresh : α} {rows : List α}

theorem filter_upserted_of_not (hp : ∀ row, p row = true → q row = false)
    (hmerge : ∀ row, q (merge row) = false) (hfresh : q fresh = false) :
    (upserted p merge fresh rows).filter q = rows.filter q := by
  induction rows with
  | nil => simp [upserted, hfresh]
  | cons row rest ih =>
    rw [upserted]
    split
    · rename_i hrow
      simp [hmerge, hp row hrow]
    · rw [List.filter_cons, List.filter_cons, ih]

end Upserted

theorem Store.withSnapshot_congr {s u t : Store} {uuid component status : String} {date : Moment}
    (same : u.snapshots = s.snapshots) (h : u.withSnapshot uuid component date status = .ok t) :
    s.withSnapshot uuid component date status = .ok { s with snapshots := t.snapshots } := by
  unfold withSnapshot at h ⊢
  rw [same] at h
  obtain ⟨createdAt, hdate, h⟩ := bind_eq_ok.1 h
  refine bind_eq_ok.2 ⟨createdAt, hdate, ?_⟩
  dsimp only at h ⊢
  split at h
  · cases h
  · rename_i free
    rw [if_neg free]
    cases h
    rfl

namespace FinishedAnalysis

def branchProject (f : FinishedAnalysis) : RawText :=
  match f.report.branch.map (·.isMain), f.mainProject with
  | some false, some main => main
  | _, _ => f.report.project.uuid

def branchName (f : FinishedAnalysis) : RawText :=
  match f.report.branch.bind (·.name) with
  | some name => if name = "" then f.report.project.key else name
  | none => f.report.project.key

def placeTexts (f : FinishedAnalysis) : List RawText :=
  let p := f.report.project
  [p.uuid, p.key, p.name] ++ f.sideOf.toList ++ (f.report.branch.map fun _ => f.branchName).toList

def rowTexts (f : FinishedAnalysis) : List RawText :=
  f.placeTexts ++ (f.made.map (·.uuid)).toList

def boundTexts (f : FinishedAnalysis) : List RawText :=
  f.rowTexts ++ [f.report.taskId]

def Clashes (f : FinishedAnalysis) (s : Store) : Prop :=
  f.report.branch.isSome ∧ ∃ row ∈ s.branches, .plain row.uuid ≠ f.report.project.uuid ∧
    .plain row.project = f.branchProject ∧ .plain row.key = f.branchName

def IsUnrecordable (f : FinishedAnalysis) (s : Store) : Prop :=
  f.allStepsExecuted = true ∧ ∃ info, f.report.analysis = some info ∧
    ((info.date.instant < 0 ∨ (span : Int) ≤ info.date.instant) ∨
      ∃ row ∈ s.snapshots, .plain row.uuid = info.uuid)

variable {f : FinishedAnalysis} {s t : Store} {now : Moment}

theorem exists_withBranch {uuid project key : String} {kind : BranchKind} :
    (∃ t, s.withBranch uuid project key kind = .ok t) ↔
      ¬ ∃ row ∈ s.branches, row.uuid ≠ uuid ∧ row.project = project ∧ row.key = key := by
  unfold Store.withBranch
  split
  · rename_i taken
    simp only [List.any_eq_true, Bool.and_eq_true, decide_eq_true_eq, and_assoc] at taken
    exact iff_of_false nofun (not_not_intro taken)
  · rename_i free
    simp only [List.any_eq_true, Bool.and_eq_true, decide_eq_true_eq, and_assoc] at free
    exact iff_of_true ⟨_, rfl⟩ free

theorem exists_withSnapshot {uuid component status : String} {date : Moment} :
    (∃ t, s.withSnapshot uuid component date status = .ok t) ↔
      (0 ≤ date.instant ∧ date.instant < span) ∧ ¬ ∃ row ∈ s.snapshots, row.uuid = uuid := by
  rw [← exists_storedDate]
  unfold Store.withSnapshot
  cases storedDate date with
  | error failure => exact iff_of_false nofun nofun
  | ok createdAt =>
    dsimp only [bind, Except.bind]
    split
    · rename_i taken
      exact iff_of_false nofun fun h => h.2 (by simpa using taken)
    · rename_i free
      exact iff_of_true ⟨_, rfl⟩ ⟨⟨createdAt, rfl⟩, by simpa using free⟩

theorem branchKey_eq {b : Branch} (h : f.report.branch = some b) :
    f.branchKey b = f.branchName := by
  rw [branchKey, branchName, h, Option.bind_some]
  cases b.name with
  | none => rfl
  | some name => simp [RawText.isEmpty_iff]

theorem branchProject_eq {b : Branch} (h : f.report.branch = some b) :
    f.branchProject = f.sideOf.getD f.report.project.uuid := by
  rw [branchProject, FinishedAnalysis.sideOf, h, Option.map_some]
  dsimp only
  cases b.isMain <;> cases f.mainProject <;> rfl

theorem exists_recordComponent : (∃ t, f.recordComponent s = .ok t) ↔
    ∀ text ∈ [f.report.project.uuid, f.report.project.key, f.report.project.name] ++
      f.sideOf.toList, text.isUnicode = true := by
  simp only [List.forall_mem_append, List.forall_mem_cons, Option.mem_toList]
  constructor
  · rintro ⟨t, h⟩
    obtain ⟨uuid, key, name, main, project, side, -⟩ := recordComponent_eq_ok h
    rw [project, side]
    cases main <;> simp
  · rintro ⟨⟨uuid, key, name, -⟩, side⟩
    obtain ⟨main, hmain⟩ := RawText.exists_option_mapM_encoded.2 side
    exact ⟨_, bind_eq_ok.2 ⟨_, RawText.encoded_of_isUnicode uuid, bind_eq_ok.2
      ⟨_, RawText.encoded_of_isUnicode key, bind_eq_ok.2
        ⟨_, RawText.encoded_of_isUnicode name, bind_eq_ok.2 ⟨main, hmain, rfl⟩⟩⟩⟩⟩

section Located

variable {uuid : String} {main : Option String} (project : f.report.project.uuid = .plain uuid)
  (side : f.sideOf = main.map .plain)
include project side

theorem recordBranch_of_branch {b : Branch} (h : f.report.branch = some b) (s : Store) :
    ∃ kind, f.recordBranch s = f.branchName.encoded >>= fun key =>
      s.withBranch uuid (main.getD uuid) key kind := by
  unfold recordBranch
  rw [h, project]
  dsimp only
  rw [branchKey_eq h, side]
  cases main with
  | none => exact ⟨.long, rfl⟩
  | some main => exact ⟨b.kind, rfl⟩

theorem exists_recordBranch : (∃ t, f.recordBranch s = .ok t) ↔
    (∀ text ∈ (f.report.branch.map fun _ => f.branchName).toList, text.isUnicode = true) ∧
      ¬ f.Clashes s := by
  cases h : f.report.branch with
  | none =>
    have hok : f.recordBranch s = .ok s := by
      unfold recordBranch
      rw [h]
    refine iff_of_true ⟨s, hok⟩ ⟨by simp, fun clashes => ?_⟩
    have branch := clashes.1
    rw [h] at branch
    cases branch
  | some b =>
    obtain ⟨kind, hbranch⟩ := recordBranch_of_branch project side h s
    have hproject : f.branchProject = .plain (main.getD uuid) := by
      rw [branchProject_eq h, side, project]
      cases main <;> rfl
    rw [hbranch, Clashes, project, hproject, h]
    cases f.branchName with
    | broken units lone =>
      exact iff_of_false nofun fun h => nomatch h.1 _ (List.mem_singleton_self _)
    | plain key =>
      rw [RawText.encoded_plain, ok_bind, exists_withBranch]
      simp

end Located

theorem exists_located : (∃ t, f.located s = .ok t) ↔
    (∀ text ∈ f.placeTexts, text.isUnicode = true) ∧ ¬ f.Clashes s := by
  rw [placeTexts, List.forall_mem_append, ← exists_recordComponent (s := s), and_assoc]
  constructor
  · rintro ⟨t, h⟩
    obtain ⟨staged, component, branch⟩ := located_eq_ok.1 h
    obtain ⟨uuid, key, name, main, project, side, rfl⟩ := recordComponent_eq_ok component
    have uuidOf : f.report.project.uuid = .plain uuid := by rw [project]
    exact ⟨⟨_, component⟩, (exists_recordBranch (s := s.withComponent uuid key name none main)
      uuidOf side).1 ⟨t, branch⟩⟩
  · rintro ⟨⟨staged, component⟩, branch⟩
    obtain ⟨uuid, key, name, main, project, side, rfl⟩ := recordComponent_eq_ok component
    have uuidOf : f.report.project.uuid = .plain uuid := by rw [project]
    obtain ⟨t, ht⟩ := (exists_recordBranch (s := s.withComponent uuid key name none main)
      uuidOf side).2 branch
    exact ⟨t, located_eq_ok.2 ⟨_, component, ht⟩⟩

theorem settled_of_located (h : f.located s = .ok t) :
    ¬ (f.Clashes s ∨ ∃ text ∈ f.placeTexts, text.isUnicode = false) := by
  obtain ⟨placed, free⟩ := exists_located.1 ⟨t, h⟩
  rintro (clashes | ⟨text, htext, broken⟩)
  · exact free clashes
  · exact Bool.noConfusion ((placed text htext).symm.trans broken)

theorem uuid_of_located (h : f.located s = .ok t) :
    ∃ uuid, f.report.project.uuid = .plain uuid := by
  obtain ⟨staged, component, -⟩ := located_eq_ok.1 h
  obtain ⟨uuid, key, name, main, project, -, -⟩ := recordComponent_eq_ok component
  exact ⟨uuid, by rw [project]⟩

theorem exists_recordSnapshot_of_made {uuid : String}
    (project : f.report.project.uuid = .plain uuid)
    {info : AnalysisInfo} (h : f.made = some info) :
    (∃ t, f.recordSnapshot s = .ok t) ↔ ∃ name, info.uuid = .plain name ∧
      ∃ t, s.withSnapshot name uuid info.date Store.processed = .ok t := by
  have asked : f.recordSnapshot s = (do
      let _ ← storedDate info.date
      s.withSnapshot (← info.uuid.encoded) uuid info.date Store.processed) := by
    rw [recordSnapshot, h, project]
    rfl
  rw [asked]
  constructor
  · rintro ⟨t, ht⟩
    obtain ⟨_, -, ht⟩ := bind_eq_ok.1 ht
    obtain ⟨name, hname, ht⟩ := bind_eq_ok.1 ht
    exact ⟨name, RawText.encoded_eq_ok.1 hname, t, ht⟩
  · rintro ⟨name, hname, t, ht⟩
    obtain ⟨createdAt, hdate, -⟩ := Store.withSnapshot_eq_ok ht
    exact ⟨t, bind_eq_ok.2 ⟨createdAt, hdate, bind_eq_ok.2
      ⟨name, RawText.encoded_eq_ok.2 hname, ht⟩⟩⟩

theorem exists_recordSnapshot {uuid : String} (project : f.report.project.uuid = .plain uuid) :
    (∃ t, f.recordSnapshot s = .ok t) ↔
      (∀ text ∈ (f.made.map (·.uuid)).toList, text.isUnicode = true) ∧ ¬ f.IsUnrecordable s := by
  have made := f.made_eq_some
  cases h : f.made with
  | none =>
    refine iff_of_true ⟨s, by rw [recordSnapshot, h]⟩ ⟨by simp, ?_⟩
    rintro ⟨all, info, hinfo, -⟩
    rw [(made info).2 ⟨all, hinfo⟩] at h
    cases h
  | some info =>
    obtain ⟨all, hinfo⟩ := (made info).1 h
    simp only [exists_recordSnapshot_of_made project h, exists_withSnapshot, IsUnrecordable, all,
      hinfo]
    obtain ⟨name, date⟩ := info
    cases name with
    | broken units lone =>
      exact iff_of_false nofun fun h => nomatch h.1 _ (List.mem_singleton_self _)
    | plain name => simp

def Analyses (f : FinishedAnalysis) (s : Store) : Prop :=
  (∀ text ∈ f.rowTexts, text.isUnicode = true) ∧ ¬ f.Clashes s ∧ ¬ f.IsUnrecordable s

theorem exists_analysed : (∃ branched analysed, f.located s = .ok branched ∧
    f.recordSnapshot branched = .ok analysed) ↔ f.Analyses s := by
  rw [Analyses, rowTexts, List.forall_mem_append]
  have snapshots {branched : Store} (h : f.located s = .ok branched) :
      (∃ analysed, f.recordSnapshot branched = .ok analysed) ↔
        (∀ text ∈ (f.made.map (·.uuid)).toList, text.isUnicode = true) ∧ ¬ f.IsUnrecordable s := by
    obtain ⟨uuid, project⟩ := uuid_of_located h
    have same : branched.snapshots = s.snapshots := by rw [located_frame h]
    rw [exists_recordSnapshot project, IsUnrecordable, IsUnrecordable, same]
  constructor
  · rintro ⟨branched, analysed, branch, analysis⟩
    obtain ⟨placed, free⟩ := exists_located.1 ⟨branched, branch⟩
    obtain ⟨named, recordable⟩ := (snapshots branch).1 ⟨analysed, analysis⟩
    exact ⟨⟨placed, named⟩, free, recordable⟩
  · rintro ⟨⟨placed, named⟩, free, recordable⟩
    obtain ⟨branched, branch⟩ := exists_located.2 ⟨placed, free⟩
    obtain ⟨analysed, analysis⟩ := (snapshots branch).2 ⟨named, recordable⟩
    exact ⟨branched, analysed, branch, analysis⟩

theorem exists_recordActivity (clock : 0 ≤ now.instant ∧ now.instant < span)
    (texts : ∀ text ∈ f.rowTexts, text.isUnicode = true) (s : Store) :
    (∃ u, f.recordActivity now s = .ok u) ↔ f.report.taskId.isUnicode = true := by
  constructor
  · rintro ⟨u, h⟩
    obtain ⟨task, _, _, named, -⟩ := recordActivity_encodes h
    rw [named]
    rfl
  · intro named
    obtain ⟨executed, hdate⟩ := exists_storedDate.2 clock
    have project : f.report.project.uuid.isUnicode = true :=
      texts _ (by simp [rowTexts, placeTexts])
    obtain ⟨made, hmade⟩ : ∃ made, f.made.mapM (·.uuid.encoded) = .ok made := by
      cases h : f.made with
      | none => exact ⟨none, rfl⟩
      | some info =>
        have encodes := RawText.encoded_of_isUnicode (texts info.uuid (by simp [rowTexts, h]))
        exact ⟨some _, by rw [Option.mapM_some, encodes]; rfl⟩
    obtain ⟨u, hu⟩ : ∃ u, s.withActivity now f.report.taskId.shown
        (some f.report.project.uuid.shown) (.ofSteps f.allStepsExecuted) made Store.reportTask
          none = .ok u := by
      unfold Store.withActivity
      rw [hdate]
      exact ⟨_, rfl⟩
    exact ⟨u, bind_eq_ok.2 ⟨executed, hdate, bind_eq_ok.2
      ⟨_, RawText.encoded_of_isUnicode named, bind_eq_ok.2
        ⟨_, RawText.encoded_of_isUnicode project, bind_eq_ok.2 ⟨made, hmade, hu⟩⟩⟩⟩⟩

theorem recorded_of_ok {branched analysed : Store} (branch : f.located s = .ok branched)
    (analysis : f.recordSnapshot branched = .ok analysed)
    (task : f.recordActivity now analysed = .ok t) : f.recorded now s = .ok t := by
  obtain ⟨staged, component, branch⟩ := located_eq_ok.1 branch
  rw [recorded, component]
  dsimp only
  rw [branch]
  dsimp only
  rw [analysis]
  dsimp only
  rw [task]

theorem exists_recorded (clock : 0 ≤ now.instant ∧ now.instant < span) :
    (∃ t, f.recorded now s = .ok t) ↔
      (∀ text ∈ f.boundTexts, text.isUnicode = true) ∧ ¬ f.Clashes s ∧ ¬ f.IsUnrecordable s := by
  have split : (∀ text ∈ f.boundTexts, text.isUnicode = true) ∧ ¬ f.Clashes s ∧
      ¬ f.IsUnrecordable s ↔ f.Analyses s ∧ f.report.taskId.isUnicode = true := by
    rw [boundTexts, List.forall_mem_append, List.forall_mem_singleton, and_right_comm, Analyses]
  rw [split]
  constructor
  · rintro ⟨t, h⟩
    obtain ⟨branched, analysed, branch, analysis, task⟩ := recorded_eq_ok h
    have analyses := exists_analysed.1 ⟨branched, analysed, branch, analysis⟩
    exact ⟨analyses, (exists_recordActivity clock analyses.1 _).1 ⟨t, task⟩⟩
  · rintro ⟨analyses, named⟩
    obtain ⟨branched, analysed, branch, analysis⟩ := exists_analysed.2 analyses
    obtain ⟨t, task⟩ := (exists_recordActivity clock analyses.1 analysed).2 named
    exact ⟨t, recorded_of_ok branch analysis task⟩

theorem recordSnapshot_congr {u : Store} (same : u.snapshots = s.snapshots)
    (h : f.recordSnapshot u = .ok t) :
    f.recordSnapshot s = .ok { s with snapshots := t.snapshots } := by
  unfold recordSnapshot at h ⊢
  split at h
  · cases h
    rw [same]
  · obtain ⟨_, hdate, h⟩ := bind_eq_ok.1 h
    obtain ⟨uuid, huuid, h⟩ := bind_eq_ok.1 h
    obtain ⟨project, hproject, h⟩ := bind_eq_ok.1 h
    exact bind_eq_ok.2 ⟨_, hdate, bind_eq_ok.2 ⟨uuid, huuid, bind_eq_ok.2
      ⟨project, hproject, Store.withSnapshot_congr same h⟩⟩⟩

theorem components_recordComponent (h : f.recordComponent s = .ok t) :
    t.components.filter (.plain ·.uuid ≠ f.report.project.uuid) =
      s.components.filter (.plain ·.uuid ≠ f.report.project.uuid) := by
  obtain ⟨uuid, key, name, main, project, -, rfl⟩ := recordComponent_eq_ok h
  rw [project]
  exact filter_upserted_of_not (by simp) (by simp) (by simp)

theorem components_located (h : f.located s = .ok t) :
    t.components.filter (.plain ·.uuid ≠ f.report.project.uuid) =
      s.components.filter (.plain ·.uuid ≠ f.report.project.uuid) := by
  obtain ⟨staged, component, branch⟩ := located_eq_ok.1 h
  have same : t.components = staged.components := by rw [recordBranch_frame branch]
  rw [same, components_recordComponent component]

theorem branches_located (h : f.located s = .ok t) :
    t.branches.filter (.plain ·.uuid ≠ f.report.project.uuid) =
      s.branches.filter (.plain ·.uuid ≠ f.report.project.uuid) := by
  obtain ⟨uuid, project⟩ := uuid_of_located h
  obtain ⟨staged, component, branch⟩ := located_eq_ok.1 h
  have same : staged.branches = s.branches := by rw [recordComponent_frame component]
  rw [← same]
  obtain rfl | ⟨main, key, kind, branch⟩ := recordBranch_eq_ok branch
  · rfl
  · rw [Store.withBranch_eq_ok branch, project]
    exact filter_upserted_of_not (fun row hrow => by simp [of_decide_eq_true hrow])
      (by simp) (by simp)

structure Leaves (f : FinishedAnalysis) (s t : Store) : Prop where
  frame : t = { s with
    components := t.components, branches := t.branches, snapshots := t.snapshots }
  components : t.components.filter (.plain ·.uuid ≠ f.report.project.uuid) =
    s.components.filter (.plain ·.uuid ≠ f.report.project.uuid)
  branches : t.branches.filter (.plain ·.uuid ≠ f.report.project.uuid) =
    s.branches.filter (.plain ·.uuid ≠ f.report.project.uuid)
  unplaced : f.Clashes s ∨ (∃ text ∈ f.placeTexts, text.isUnicode = false) →
    t.branches = s.branches
  unanalysed : ¬ f.Analyses s → t.snapshots = s.snapshots
  analysed : f.Analyses s → f.recordSnapshot s = .ok { s with snapshots := t.snapshots }

theorem leaves_of_refused {failure : Failure} (h : f.recorded now s = .error (failure, t)) :
    f.Leaves s t := by
  have stages := f.stages_recorded now s
  rw [h] at stages
  have halted {other : Failure} (h : f.located s = .error other) : ¬ f.Analyses s := by
    intro analyses
    obtain ⟨branched, -, branch, -⟩ := exists_analysed.2 analyses
    rw [h] at branch
    cases branch
  cases stages with
  | component refused =>
    have unanalysed := halted (by rw [located, refused]; rfl)
    exact ⟨rfl, rfl, rfl, fun _ => rfl, fun _ => rfl, fun analyses => absurd analyses unanalysed⟩
  | branch component refused =>
    have unanalysed := halted (by rw [located, component]; exact refused)
    have frame := recordComponent_frame component
    refine ⟨?_, components_recordComponent component, ?_, fun _ => ?_, fun _ => ?_,
      fun analyses => absurd analyses unanalysed⟩ <;> rw [frame]
  | analysis branch refused =>
    have unanalysed : ¬ f.Analyses s := fun analyses => by
      obtain ⟨branched, analysed, branch', analysis⟩ := exists_analysed.2 analyses
      rw [branch] at branch'
      cases branch'
      rw [refused] at analysis
      cases analysis
    have frame := located_frame branch
    refine ⟨?_, components_located branch, branches_located branch,
      fun unsettled => absurd unsettled (settled_of_located branch), fun _ => ?_,
      fun analyses => absurd analyses unanalysed⟩ <;> rw [frame]
  | @task branched _ _ branch analysis refused =>
    have analyses := exists_analysed.1 ⟨_, _, branch, analysis⟩
    have frame := recordSnapshot_frame analysis
    have components : t.components = branched.components := by rw [frame]
    have branches : t.branches = branched.branches := by rw [frame]
    refine ⟨?_, ?_, ?_, fun unsettled => absurd unsettled (settled_of_located branch),
      fun unanalysed => absurd analyses unanalysed, fun _ => ?_⟩
    · rw [frame, located_frame branch]
    · rw [components, components_located branch]
    · rw [branches, branches_located branch]
    · exact recordSnapshot_congr (by rw [located_frame branch]) analysis

theorem record_eq_error {s u : Service} {failure : Failure} :
    f.record s = .error failure u ↔
      ∃ t, f.recorded s.clock s.store = .error (failure, t) ∧ u = { s with store := t } := by
  rw [record_apply]
  cases f.recorded s.clock s.store with
  | ok t => simp
  | error refused =>
    obtain ⟨other, t⟩ := refused
    constructor
    · intro h
      cases h
      exact ⟨t, rfl, rfl⟩
    · rintro ⟨v, h, rfl⟩
      cases h
      rfl

theorem record_fails_iff (f : FinishedAnalysis) (s : Service)
    (clock : 0 ≤ s.clock.instant ∧ s.clock.instant < span) :
    ((∃ failure u, f.record s = .error failure u) ↔
      f.Clashes s.store ∨ ¬ f.Clashes s.store ∧ f.IsUnrecordable s.store ∨
        ∃ text ∈ f.boundTexts, text.isUnicode = false) ∧
    ∀ failure u, f.record s = .error failure u →
      handleFinished f s = .error failure u ∧ u = { s with store := u.store } ∧
        f.Leaves s.store u.store := by
  constructor
  · have fails : (∃ failure u, f.record s = .error failure u) ↔
        ¬ ∃ t, f.recorded s.clock s.store = .ok t := by
      simp only [record_eq_error]
      cases f.recorded s.clock s.store with
      | ok t => simp
      | error refused => exact iff_of_true ⟨refused.1, _, refused.2, rfl, rfl⟩ (by simp)
    have lone : (∃ text ∈ f.boundTexts, text.isUnicode = false) ↔
        ¬ ∀ text ∈ f.boundTexts, text.isUnicode = true := by simp
    rw [fails, exists_recorded clock, lone]
    tauto
  · intro failure u h
    obtain ⟨t, ht, rfl⟩ := record_eq_error.1 h
    refine ⟨?_, rfl, leaves_of_refused ht⟩
    rw [handleFinished, bind_apply, h]

def sideReport : FinishedAnalysis where
  report := {
    taskId := "t"
    project := ⟨"b", "b", "b"⟩
    branch := some ⟨false, some "fix", .short⟩
    analysis := some ⟨"a", noon⟩
    gate := none
    properties := [] }
  allStepsExecuted := true
  mainProject := some "p"

def crowded : Service where
  store := {
    components := [⟨"p", "p", "p", "p", none⟩]
    branches := [⟨"c", "p", "fix", "SHORT"⟩] }

theorem record_fails_iff_crowded : (0 ≤ crowded.clock.instant ∧ crowded.clock.instant < span) ∧
    sideReport.Clashes crowded.store ∧
    ∃ failure u, sideReport.record crowded = .error failure u ∧
      handleFinished sideReport crowded = .error failure u ∧
      u = { crowded with store := u.store } ∧ sideReport.Leaves crowded.store u.store := by
  have clock : 0 ≤ crowded.clock.instant ∧ crowded.clock.instant < span := by decide
  have clashes : sideReport.Clashes crowded.store :=
    ⟨rfl, ⟨"c", "p", "fix", "SHORT"⟩, by decide, by decide, rfl, rfl⟩
  obtain ⟨fails, leaves⟩ := record_fails_iff sideReport crowded clock
  obtain ⟨failure, u, h⟩ := fails.2 (.inl clashes)
  exact ⟨clock, clashes, failure, u, h, leaves failure u h⟩

def loneTask : FinishedAnalysis :=
  { sideReport with report := { sideReport.report with taskId := .loneLead } }

def loneTaskDocument : Json := .object [
  ("ceTaskId", .text .loneLead),
  ("project", .object [("uuid", .text "b"), ("key", .text "b"), ("name", .text "b")]),
  ("branch", .object [("isMain", .bool false), ("name", .text "fix"), ("type", .text "SHORT")]),
  ("analysis", .object [("uuid", .text "a"), ("date", .text "2026-10-18T12:00:00Z")]),
  ("mainBranchProjectUuid", .text "p")]

def analysed : Service where
  store := { snapshots := [⟨"o", "b", "P", true, "2026-10-17T12:00:00.000000Z"⟩] }

-- The task is refused when its analysis is already the last one.
theorem lone_surrogate_refused :
    read loneTaskDocument = .ok loneTask ∧
      (0 ≤ analysed.clock.instant ∧ analysed.clock.instant < span) ∧
      ¬ loneTask.Clashes analysed.store ∧ ¬ loneTask.IsUnrecordable analysed.store ∧
      ∃ failure u, loneTask.record analysed = .error failure u ∧
        u.store.snapshots.map (fun row => (row.uuid, row.isLast)) =
          [("o", false), ("a", true)] := by
  refine ⟨?_, by decide, ?_, ?_, ?_⟩
  · rfl
  · rintro ⟨-, row, hrow, -⟩
    cases hrow
  · rintro ⟨-, info, hinfo, refused⟩
    cases hinfo
    revert refused
    decide
  · exact ⟨_, _, rfl, by decide +kernel⟩

end FinishedAnalysis

end AnalysisWebhooks
