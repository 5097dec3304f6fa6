import AnalysisWebhooks.Proofs.Issue.Notices
import AnalysisWebhooks.Proofs.Store.Reading
import AnalysisWebhooks.Proofs.Store.Sorted
import Mathlib.Data.List.Perm.Subperm

namespace AnalysisWebhooks

open Calendar

section Lists

variable {α β : Type} {r : α → β → Prop} {l : List α} {m : List β} {p : α → Bool} {q : β → Bool}

theorem find?_reverse (p : α → Bool) (l : List α) : l.reverse.find? p = (l.filter p).getLast? := by
  rw [← List.head?_filter, List.filter_reverse, List.head?_reverse]

theorem rel_getLast? (h : List.Forall₂ r l m) : Option.Rel r l.getLast? m.getLast? := by
  rw [← List.head?_reverse, ← List.head?_reverse]
  have hrev : List.Forall₂ r l.reverse m.reverse := List.forall₂_reverse_iff.2 h
  generalize l.reverse = l, m.reverse = m at hrev
  cases hrev with
  | nil => exact .none
  | cons hab _ => exact .some hab

theorem rel_find?_reverse (h : List.Forall₂ r l m) (same : ∀ a b, r a b → p a = q b) :
    Option.Rel r (l.filter p).getLast? (m.reverse.find? q) := by
  rw [find?_reverse]
  exact rel_getLast? (forall₂_filter h same)

theorem eraseDups_sublist [BEq α] : (l : List α) → l.eraseDups.Sublist l
  | [] => .slnil
  | a :: rest => by
    rw [List.eraseDups_cons]
    exact ((eraseDups_sublist _).trans List.filter_sublist).cons_cons a
termination_by l => l.length
decreasing_by exact Nat.lt_succ_of_le (List.length_filter_le ..)

theorem nodup_eraseDups [BEq α] [LawfulBEq α] : (l : List α) → l.eraseDups.Nodup
  | [] => .nil
  | a :: rest => by
    rw [List.eraseDups_cons, List.nodup_cons]
    exact ⟨by simp, nodup_eraseDups _⟩
termination_by l => l.length
decreasing_by exact Nat.lt_succ_of_le (List.length_filter_le ..)

theorem length_eraseDups_le [BEq α] [LawfulBEq α] {keys : List α} (h : l ⊆ keys) :
    l.eraseDups.length ≤ keys.length :=
  (List.subperm_of_subset (nodup_eraseDups l) fun _ ha => h (List.mem_eraseDups.1 ha)).length_le

end Lists

namespace Store

variable {α : Type} {keyOf : α → String}

theorem le_total_key (a b : α) :
    decide (keyOf a ≤ keyOf b) = true ∨ decide (keyOf b ≤ keyOf a) = true := by
  simpa using String.le_total (keyOf a) (keyOf b)

theorem le_trans_key (a b c : α) (hab : decide (keyOf a ≤ keyOf b) = true)
    (hbc : decide (keyOf b ≤ keyOf c) = true) : decide (keyOf a ≤ keyOf c) = true := by
  simp only [decide_eq_true_eq] at hab hbc ⊢
  exact String.le_trans hab hbc

theorem filter_rowsOf (p : α → Bool) (keys : List String) (rows : List α) :
    (rowsOf keyOf keys rows).filter p =
      sorted (fun a b => decide (keyOf a ≤ keyOf b))
        (rows.filter fun row => p row && keys.contains (keyOf row)) := by
  rw [rowsOf, filter_sorted le_total_key le_trans_key, List.filter_filter]

theorem filter_rowsOf_key {p : α → Bool} {keys : List String} {key : String} (rows : List α)
    (asked : key ∈ keys) (hp : ∀ row, p row = true → keyOf row = key) :
    (rowsOf keyOf keys rows).filter p = rows.filter p := by
  have all : (rows.filter fun row => p row && keys.contains (keyOf row)) = rows.filter p := by
    refine List.filter_congr fun row _ => ?_
    cases h : p row with
    | false => rfl
    | true => simpa [hp row h] using asked
  rw [filter_rowsOf, all]
  -- rows of one key are in order already, and sorting keeps them as they are
  refine sorted_eq_self fun a ha b hb => ?_
  rw [hp a (List.mem_filter.1 ha).2, hp b (List.mem_filter.1 hb).2]
  simp

theorem mem_rowsOf {keys : List String} {rows : List α} {row : α} :
    row ∈ rowsOf keyOf keys rows ↔ row ∈ rows ∧ keyOf row ∈ keys := by
  rw [rowsOf, mem_sorted, List.mem_filter, List.contains_iff_mem]

end Store

theorem lastWith_eq {α κ : Type} [DecidableEq κ] (keyOf : α → κ) (key : κ) (items : List α) :
    lastWith keyOf key items = (items.filter (keyOf · = key)).getLast? :=
  find?_reverse _ _

namespace Store

variable {s : Store} {uuids : List String} {uuid : String}

theorem componentsOf_plain (few : uuids.length ≤ parameterLimit) :
    s.componentsOf (uuids.map .plain) = .ok (rowsOf (·.uuid) uuids s.components) :=
  bind_eq_ok.2 ⟨uuids, bound_plain few, rfl⟩

theorem lastWith_components (h : uuid ∈ uuids) :
    lastWith (·.uuid) uuid (rowsOf (·.uuid) uuids s.components) = s.lastComponent uuid := by
  rw [lastWith_eq, filter_rowsOf_key _ h (by simp), lastComponent]

theorem exists_lastAnalysesOf (few : uuids.length ≤ parameterLimit) :
    (∃ rows, s.lastAnalysesOf (uuids.map .plain) = .ok rows) ↔
      ∀ uuid ∈ uuids, ∀ row ∈ s.snapshots, row.isLast = true → row.component = uuid →
        ∃ r, row.read = .ok r := by
  have asked : s.lastAnalysesOf (uuids.map .plain) =
      (rowsOf (·.component) uuids (s.snapshots.filter (·.isLast))).mapM SnapshotRow.read := by
    rw [lastAnalysesOf, bound_plain few]
    rfl
  rw [asked, exists_mapM_eq_ok]
  simp only [mem_rowsOf, List.mem_filter]
  constructor
  · rintro h _ huuid row hrow hlast rfl
    exact h row ⟨⟨hrow, hlast⟩, huuid⟩
  · rintro h row ⟨⟨hrow, hlast⟩, huuid⟩
    exact h _ huuid row hrow hlast rfl

theorem exists_activitiesOf (few : uuids.length ≤ parameterLimit) :
    (∃ rows, s.activitiesOf (uuids.map .plain) = .ok rows) ↔
      ∀ uuid ∈ uuids, ∀ row ∈ s.activities, row.analysis = some uuid → ∃ r, row.read = .ok r := by
  have asked : s.activitiesOf (uuids.map .plain) =
      (rowsOf (fun row => row.analysis.getD "") uuids
        (s.activities.filter (·.analysis.isSome))).mapM ActivityRow.read := by
    rw [activitiesOf, bound_plain few]
    rfl
  rw [asked, exists_mapM_eq_ok]
  simp only [mem_rowsOf, List.mem_filter]
  constructor
  · intro h uuid huuid row hrow hanalysis
    exact h row ⟨⟨hrow, by rw [hanalysis]; rfl⟩, by rwa [hanalysis]⟩
  · rintro h row ⟨⟨hrow, hsome⟩, huuid⟩
    obtain ⟨analysis, hanalysis⟩ := Option.isSome_iff_exists.1 hsome
    rw [hanalysis] at huuid
    exact h analysis huuid row hrow hanalysis

theorem rel_lastSnapshot {snapshots : List (SnapshotRow Moment)}
    (read : s.lastAnalysesOf (uuids.map .plain) = .ok snapshots) (h : uuid ∈ uuids) :
    Option.Rel (fun row r => SnapshotRow.read row = .ok r) (s.lastSnapshot uuid)
      (lastWith (·.component) uuid snapshots) := by
  obtain ⟨keys, hkeys, read⟩ := bind_eq_ok.1 read
  obtain rfl := List.map_injective_iff.2 RawText.plain_injective (bound_eq_ok.1 hkeys).2
  have last := rel_find?_reverse (q := (·.component = uuid)) (mapM_eq_ok.1 read)
    (p := (·.component = uuid)) fun row r hr => by rw [(SnapshotRow.read_eq_ok.1 hr).2]
  rw [filter_rowsOf_key _ h (by simp), List.filter_filter] at last
  simpa only [lastSnapshot, lastWith, Bool.and_comm] using last

theorem rel_lastActivity {analyses : List String}
    {activities : List (ActivityRow TaskStatus Moment)}
    {analysis : String} (read : s.activitiesOf (analyses.map .plain) = .ok activities)
    (h : analysis ∈ analyses) :
    Option.Rel (fun row r => ActivityRow.read row = .ok r) (s.lastActivity analysis)
      (activities.reverse.find? (·.analysis = some analysis)) := by
  obtain ⟨keys, hkeys, read⟩ := bind_eq_ok.1 read
  obtain rfl := List.map_injective_iff.2 RawText.plain_injective (bound_eq_ok.1 hkeys).2
  have last := rel_find?_reverse (q := (·.analysis = some analysis)) (mapM_eq_ok.1 read)
    (p := (·.analysis = some analysis)) fun row r hr => by rw [(ActivityRow.read_eq_ok.1 hr).2.2.2]
  have only : (s.activities.filter (·.analysis.isSome)).filter (·.analysis = some analysis) =
      s.activities.filter (·.analysis = some analysis) := by
    rw [List.filter_filter]
    refine List.filter_congr fun row _ => ?_
    by_cases hrow : row.analysis = some analysis <;> simp [hrow]
  rw [filter_rowsOf_key _ h (by simp +contextual), only] at last
  exact last

def targetOf (s : Store) (branch : BranchRow BranchKind) : Option IssueTarget := do
  let component ← s.lastComponent branch.uuid
  let snapshot ← s.lastSnapshot branch.uuid
  let activity ← s.lastActivity snapshot.uuid
  let status ← TaskStatus.names.lookup activity.status
  return ⟨component, branch, snapshot.uuid, activity.uuid, status⟩

end Store

namespace LastAnalyses

variable {s : Store} {branches : List (BranchRow BranchKind)} {last : LastAnalyses}

def uuids (branches : List (BranchRow BranchKind)) : List String :=
  (branches.map (·.uuid)).eraseDups

def analyses (branches : List (BranchRow BranchKind)) (snapshots : List (SnapshotRow Moment)) :
    List String :=
  (((uuids branches).filterMap fun uuid =>
    lastWith (·.component) uuid snapshots).map (·.uuid)).eraseDups

theorem mem_uuids {uuid : String} : uuid ∈ uuids branches ↔ uuid ∈ branches.map (·.uuid) :=
  List.mem_eraseDups

theorem length_analyses_le (snapshots : List (SnapshotRow Moment)) :
    (analyses branches snapshots).length ≤ (uuids branches).length := by
  refine Nat.le_trans (eraseDups_sublist _).length_le ?_
  rw [List.length_map]
  exact List.length_filterMap_le ..

theorem ofBranches_eq_ok (few : (uuids branches).length ≤ Store.parameterLimit) :
    ofBranches s branches = .ok last ↔
      s.lastAnalysesOf ((uuids branches).map .plain) = .ok last.snapshots ∧
        s.activitiesOf ((analyses branches last.snapshots).map .plain) = .ok last.activities ∧
        last.roots = Store.rowsOf (·.uuid) (uuids branches) s.components := by
  unfold ofBranches
  dsimp only
  rw [← uuids, Store.componentsOf_plain few]
  simp only [bind_eq_ok]
  constructor
  · rintro ⟨roots, hroots, snapshots, hsnapshots, activities, hactivities, h⟩
    cases hroots
    cases h
    exact ⟨hsnapshots, hactivities, rfl⟩
  · rintro ⟨hsnapshots, hactivities, hroots⟩
    refine ⟨_, rfl, last.snapshots, hsnapshots, last.activities, hactivities, ?_⟩
    rw [← hroots]
    rfl

theorem target?_eq (few : (uuids branches).length ≤ Store.parameterLimit)
    (h : ofBranches s branches = .ok last) {b : BranchRow BranchKind} (hb : b ∈ branches) :
    last.target? b = s.targetOf b := by
  obtain ⟨hsnapshots, hactivities, hroots⟩ := (ofBranches_eq_ok few).1 h
  have asked : b.uuid ∈ uuids branches := mem_uuids.2 (List.mem_map_of_mem hb)
  have snapshots := Store.rel_lastSnapshot hsnapshots asked
  rw [target?, Store.targetOf, hroots, Store.lastWith_components asked]
  cases s.lastComponent b.uuid with
  | none => rfl
  | some component =>
    generalize hfound : lastWith (·.component) b.uuid last.snapshots = found at snapshots
    generalize s.lastSnapshot b.uuid = stored at snapshots
    cases snapshots with
    | none => rfl
    | @some row snapshot hread =>
      have same : snapshot.uuid = row.uuid := by rw [(SnapshotRow.read_eq_ok.1 hread).2]
      have activities := Store.rel_lastActivity hactivities (List.mem_eraseDups.2
        (List.mem_map_of_mem (List.mem_filterMap.2 ⟨b.uuid, asked, hfound⟩)))
      dsimp only [Option.bind_eq_bind, Option.bind_some]
      rw [← same]
      generalize last.activities.reverse.find? _ = found at activities
      generalize s.lastActivity snapshot.uuid = stored at activities
      cases activities with
      | none => rfl
      | @some row activity hread =>
        obtain ⟨hstatus, -, -, hactivity⟩ := ActivityRow.read_eq_ok.1 hread
        have huuid : activity.uuid = row.uuid := by rw [hactivity]
        simp [hstatus, TaskStatus.lookup_name, huuid]

theorem mem_analyses {snapshots : List (SnapshotRow Moment)} {analysis : String}
    (read : s.lastAnalysesOf ((uuids branches).map .plain) = .ok snapshots) :
    analysis ∈ analyses branches snapshots ↔
      ∃ uuid ∈ uuids branches, ∃ row, s.lastSnapshot uuid = some row ∧ row.uuid = analysis := by
  simp only [analyses, List.mem_eraseDups, List.mem_map, List.mem_filterMap]
  constructor
  · rintro ⟨snapshot, ⟨uuid, huuid, hfound⟩, rfl⟩
    have last := Store.rel_lastSnapshot read huuid
    rw [hfound] at last
    generalize hrow : s.lastSnapshot uuid = stored at last
    cases last with
    | @some row _ hread =>
      exact ⟨uuid, huuid, row, hrow, by rw [(SnapshotRow.read_eq_ok.1 hread).2]⟩
  · rintro ⟨uuid, huuid, row, hrow, rfl⟩
    have last := Store.rel_lastSnapshot read huuid
    rw [hrow] at last
    generalize hfound : lastWith (·.component) uuid snapshots = found at last
    cases last with
    | @some _ snapshot hread =>
      exact ⟨snapshot, ⟨uuid, huuid, hfound⟩, by rw [(SnapshotRow.read_eq_ok.1 hread).2]⟩

theorem exists_ofBranches (few : (uuids branches).length ≤ Store.parameterLimit) :
    (∃ last, ofBranches s branches = .ok last) ↔
      (∀ uuid ∈ branches.map (·.uuid), ∀ row ∈ s.snapshots, row.isLast = true →
        row.component = uuid → ∃ r, row.read = .ok r) ∧
      (∀ uuid ∈ branches.map (·.uuid), ∀ snapshot, s.lastSnapshot uuid = some snapshot →
        ∀ row ∈ s.activities, row.analysis = some snapshot.uuid → ∃ r, row.read = .ok r) := by
  simp only [← mem_uuids]
  have fewAnalyses (snapshots) : (analyses branches snapshots).length ≤ Store.parameterLimit :=
    Nat.le_trans (length_analyses_le snapshots) few
  constructor
  · rintro ⟨last, h⟩
    obtain ⟨hsnapshots, hactivities, -⟩ := (ofBranches_eq_ok few).1 h
    have activitiesRead := (Store.exists_activitiesOf (fewAnalyses _)).1 ⟨_, hactivities⟩
    exact ⟨(Store.exists_lastAnalysesOf few).1 ⟨_, hsnapshots⟩, fun uuid huuid snapshot last =>
      activitiesRead _ ((mem_analyses hsnapshots).2 ⟨uuid, huuid, snapshot, last, rfl⟩)⟩
  · rintro ⟨snapshotsRead, activitiesRead⟩
    obtain ⟨snapshots, hsnapshots⟩ := (Store.exists_lastAnalysesOf few).2 snapshotsRead
    obtain ⟨activities, hactivities⟩ :
        ∃ rows, s.activitiesOf ((analyses branches snapshots).map .plain) = .ok rows := by
      refine (Store.exists_activitiesOf (fewAnalyses _)).2 fun analysis asked => ?_
      obtain ⟨uuid, huuid, snapshot, last, rfl⟩ := (mem_analyses hsnapshots).1 asked
      exact activitiesRead uuid huuid snapshot last
    exact ⟨⟨_, snapshots, activities⟩, (ofBranches_eq_ok few).2 ⟨hsnapshots, hactivities, rfl⟩⟩

end LastAnalyses

namespace Store

theorem binds_singleton (s : String) : Binds [.plain s] where
  few := by
    rw [List.length_singleton]
    decide
  unicode := by simp

theorem Binds.of_nodup {l m : List RawText} (h : Binds m) (nodup : l.Nodup) (sub : l ⊆ m) :
    Binds l :=
  ⟨Nat.le_trans (List.subperm_of_subset nodup sub).length_le h.few, fun t ht =>
    h.unicode t (sub ht)⟩

theorem Binds.of_subset {l m : List RawText} (h : Binds m.eraseDups) (sub : l ⊆ m) :
    Binds l.eraseDups :=
  h.of_nodup (nodup_eraseDups l) fun _ ht =>
    List.mem_eraseDups.2 (sub (List.mem_eraseDups.1 ht))

end Store

section Branches

variable {s : Store} {components : List ComponentRef} {roots : List RawText} {keys : List String}

theorem filter_branchRows (same : ∀ uuid, uuid ∈ keys ↔ .plain uuid ∈ roots) :
    (Store.rowsOf (·.uuid) keys s.branches).filter (·.kind = BranchKind.short.name) =
      s.shortBranchRows roots := by
  rw [Store.filter_rowsOf, Store.shortBranchRows]
  congr 1
  refine List.filter_congr fun row _ => ?_
  have hkeys : keys.contains row.uuid = roots.contains (.plain row.uuid) := by
    rw [Bool.eq_iff_iff, List.contains_iff_mem, List.contains_iff_mem, same]
  rw [hkeys]
  rfl

theorem mem_of_bound (same : ∀ uuid, uuid ∈ components.map (·.root) ↔ uuid ∈ roots)
    (h : Store.bound (components.map (·.root)).eraseDups = .ok keys) (uuid : String) :
    uuid ∈ keys ↔ .plain uuid ∈ roots := by
  rw [← same, ← List.mem_eraseDups (l := List.map _ components), (Store.bound_eq_ok.1 h).2,
    List.mem_map_of_injective RawText.plain_injective]

theorem forall₂_shortBranches {branches : List (BranchRow BranchKind)}
    (same : ∀ uuid, uuid ∈ components.map (·.root) ↔ uuid ∈ roots)
    (h : shortBranches s components = .ok branches) :
    List.Forall₂ (fun row b => BranchRow.read row = .ok b) (s.shortBranchRows roots) branches := by
  obtain ⟨all, hall, h⟩ := bind_eq_ok.1 h
  obtain ⟨keys, hkeys, hall⟩ := bind_eq_ok.1 hall
  cases h
  rw [← filter_branchRows (mem_of_bound same hkeys)]
  refine forall₂_filter (mapM_eq_ok.1 hall) fun row b hread => ?_
  obtain ⟨hkind, -⟩ := BranchRow.read_eq_ok.1 hread
  rw [hkind]
  cases b.kind <;> decide

theorem uuids_of_forall₂ {rows : List (BranchRow String)} {branches : List (BranchRow BranchKind)}
    (h : List.Forall₂ (fun row b => BranchRow.read row = .ok b) rows branches) :
    branches.map (·.uuid) = rows.map (·.uuid) := by
  induction h with
  | nil => rfl
  | cons hread _ ih => rw [List.map_cons, List.map_cons, ih, (BranchRow.read_eq_ok.1 hread).2]

theorem few_uuids {branches : List (BranchRow BranchKind)}
    (h : shortBranches s components = .ok branches) :
    (LastAnalyses.uuids branches).length ≤ Store.parameterLimit := by
  obtain ⟨all, hall, h⟩ := bind_eq_ok.1 h
  obtain ⟨keys, hkeys, hall⟩ := bind_eq_ok.1 hall
  cases h
  obtain ⟨few, hkeys⟩ := Store.bound_eq_ok.1 hkeys
  rw [hkeys, List.length_map] at few
  refine Nat.le_trans (length_eraseDups_le ?_) few
  refine List.Subset.trans (List.map_subset _ (List.filter_subset_self _)) ?_
  rw [uuids_of_forall₂ (mapM_eq_ok.1 hall)]
  intro uuid huuid
  obtain ⟨row, hrow, rfl⟩ := List.mem_map.1 huuid
  exact (Store.mem_rowsOf.1 hrow).2

theorem resolveBranches_eq_ok {found : List (BranchRow BranchKind × Option IssueTarget)}
    (same : ∀ uuid, uuid ∈ components.map (·.root) ↔ uuid ∈ roots)
    (h : resolveBranches s components = .ok found) :
    ∃ branches, List.Forall₂ (fun row b => BranchRow.read row = .ok b) (s.shortBranchRows roots)
      branches ∧ found = branches.map fun b => (b, s.targetOf b) := by
  obtain ⟨branches, hbranches, h⟩ := bind_eq_ok.1 h
  obtain ⟨last, hlast, h⟩ := bind_eq_ok.1 h
  cases h
  refine ⟨branches, forall₂_shortBranches same hbranches, List.map_congr_left fun b hb => ?_⟩
  rw [LastAnalyses.target?_eq (few_uuids hbranches) hlast hb]

theorem exists_shortBranches (same : ∀ uuid, uuid ∈ components.map (·.root) ↔ uuid ∈ roots) :
    (∃ branches, shortBranches s components = .ok branches) ↔ Store.Binds roots.eraseDups ∧
      ∀ row ∈ s.branches, .plain row.uuid ∈ roots → ∃ b, row.read = .ok b := by
  constructor
  · rintro ⟨branches, h⟩
    obtain ⟨all, hall, -⟩ := bind_eq_ok.1 h
    obtain ⟨keys, hkeys, hall⟩ := bind_eq_ok.1 hall
    refine ⟨(Store.exists_bound.1 ⟨keys, hkeys⟩).of_subset fun uuid => (same uuid).2, ?_⟩
    intro row hrow hroot
    exact exists_mapM_eq_ok.1 ⟨all, hall⟩ row
      (Store.mem_rowsOf.2 ⟨hrow, (mem_of_bound same hkeys _).2 hroot⟩)
  · rintro ⟨binds, readable⟩
    obtain ⟨keys, hkeys⟩ := Store.exists_bound.2 (binds.of_subset fun uuid => (same uuid).1)
    obtain ⟨all, hall⟩ : ∃ all, s.branchesOf (components.map (·.root)).eraseDups = .ok all := by
      simp only [Store.branchesOf, hkeys]
      refine exists_mapM_eq_ok.2 fun row hrow => ?_
      obtain ⟨hrow, hroot⟩ := Store.mem_rowsOf.1 hrow
      exact readable row hrow ((mem_of_bound same hkeys _).1 hroot)
    exact ⟨_, bind_eq_ok.2 ⟨all, hall, rfl⟩⟩

theorem exists_resolveBranches (same : ∀ uuid, uuid ∈ components.map (·.root) ↔ uuid ∈ roots) :
    (∃ found, resolveBranches s components = .ok found) ↔
      Store.Binds roots.eraseDups ∧ s.Readable roots := by
  have lasts {branches} (h : shortBranches s components = .ok branches) :
      (∃ last, LastAnalyses.ofBranches s branches = .ok last) ↔
        (∀ branch ∈ s.shortBranchRows roots, ∀ row ∈ s.snapshots, row.isLast = true →
          row.component = branch.uuid → ∃ r, row.read = .ok r) ∧
        (∀ branch ∈ s.shortBranchRows roots, ∀ snapshot,
          s.lastSnapshot branch.uuid = some snapshot →
            ∀ row ∈ s.activities, row.analysis = some snapshot.uuid → ∃ r, row.read = .ok r) := by
    rw [LastAnalyses.exists_ofBranches (few_uuids h), uuids_of_forall₂ (forall₂_shortBranches same h),
      List.forall_mem_map, List.forall_mem_map]
  constructor
  · rintro ⟨found, h⟩
    obtain ⟨branches, hbranches, h⟩ := bind_eq_ok.1 h
    obtain ⟨last, hlast, -⟩ := bind_eq_ok.1 h
    obtain ⟨binds, rows⟩ := (exists_shortBranches same).1 ⟨branches, hbranches⟩
    obtain ⟨snapshots, activities⟩ := (lasts hbranches).1 ⟨last, hlast⟩
    exact ⟨binds, rows, snapshots, activities⟩
  · rintro ⟨binds, readable⟩
    obtain ⟨branches, hbranches⟩ := (exists_shortBranches same).2 ⟨binds, readable.branches⟩
    obtain ⟨last, hlast⟩ := (lasts hbranches).2 ⟨readable.snapshots, readable.activities⟩
    exact ⟨_, bind_eq_ok.2 ⟨branches, hbranches, bind_eq_ok.2 ⟨last, hlast, rfl⟩⟩⟩

end Branches

end AnalysisWebhooks
