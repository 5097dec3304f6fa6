import AnalysisWebhooks.Proofs.Store.Upsert

namespace AnalysisWebhooks

open Calendar

structure TaskReport where
  uuid : String
  component : Option String
  taskType : String
deriving DecidableEq, Repr

namespace TaskReport

def names (r : TaskReport) (component : Option String) (taskType : String) : Bool :=
  r.component = component && r.taskType = taskType

def owner? (uuid : String) : List TaskReport → Option (Option String × String)
  | [] => none
  | r :: rest =>
    (owner? uuid rest).or (if r.uuid = uuid then some (r.component, r.taskType) else none)

def recent (component : Option String) (taskType : String) : List TaskReport → List String
  | [] => []
  | r :: rest =>
    r.uuid :: if r.names component taskType then [] else recent component taskType rest

def Faithful (reports : List TaskReport) : Prop :=
  ∀ r ∈ reports, owner? r.uuid reports = some (r.component, r.taskType)

instance (reports : List TaskReport) : Decidable (Faithful reports) :=
  inferInstanceAs (Decidable (∀ r ∈ reports, _))

theorem owner?_isSome {uuid : String} {reports : List TaskReport} :
    (owner? uuid reports).isSome = true ↔ ∃ r ∈ reports, r.uuid = uuid := by
  induction reports with
  | nil => simp [owner?]
  | cons r rest ih =>
    rw [owner?, Option.isSome_or, Bool.or_eq_true, ih]
    by_cases h : r.uuid = uuid <;> simp [h]

theorem owner?_cons_of_some {uuid : String} {reports : List TaskReport} {r : TaskReport}
    {owner : Option String × String} (h : owner? uuid reports = some owner) :
    owner? uuid (r :: reports) = some owner := by
  rw [owner?, h, Option.some_or]

theorem owner?_cons_of_none {r : TaskReport} {reports : List TaskReport}
    (h : owner? r.uuid reports = none) :
    owner? r.uuid (r :: reports) = some (r.component, r.taskType) := by
  rw [owner?, h, Option.none_or, if_pos rfl]

theorem mem_recent {uuid taskType : String} {component : Option String}
    {reports : List TaskReport} (h : uuid ∈ recent component taskType reports) :
    ∃ r ∈ reports, r.uuid = uuid ∧
      (r.names component taskType = true →
        reports.find? (·.names component taskType) = some r) := by
  induction reports with
  | nil => cases h
  | cons r rest ih =>
    rcases List.mem_cons.1 h with rfl | h
    · exact ⟨r, List.mem_cons_self, rfl, fun hr => by simp [hr]⟩
    · split at h
      · cases h
      · rename_i hr
        obtain ⟨r', hr', huuid, hfirst⟩ := ih h
        refine ⟨r', List.mem_cons_of_mem r hr', huuid, fun hnames => ?_⟩
        have skip : (r :: rest).find? (·.names component taskType) =
            rest.find? (·.names component taskType) := List.find?_cons_of_neg hr
        rw [skip]
        exact hfirst hnames

theorem Faithful.eq_of_recent {reports : List TaskReport} (h : Faithful reports)
    {u v taskType : String} {component : Option String}
    (hu : u ∈ recent component taskType reports) (hv : v ∈ recent component taskType reports)
    (ownerU : owner? u reports = some (component, taskType))
    (ownerV : owner? v reports = some (component, taskType)) : u = v := by
  obtain ⟨r, hr, rfl, firstR⟩ := mem_recent hu
  obtain ⟨q, hq, rfl, firstQ⟩ := mem_recent hv
  have namesOf : ∀ p ∈ reports, owner? p.uuid reports = some (component, taskType) →
      p.names component taskType = true := by
    intro p hp howner
    rw [h p hp] at howner
    obtain ⟨hcomponent, htype⟩ : p.component = component ∧ p.taskType = taskType := by
      simpa using howner
    simp [names, hcomponent, htype]
  have same := (firstR (namesOf r hr ownerU)).symm.trans (firstQ (namesOf q hq ownerV))
  rw [Option.some.inj same]

end TaskReport

open TaskReport

def cleared (r : TaskReport) (row : ActivityRow String String) : ActivityRow String String :=
  if r.component.isSome && row.component = r.component && row.taskType = r.taskType then
    { row with isLast := false }
  else row

theorem cleared_cases (r : TaskReport) (row : ActivityRow String String) :
    ∃ isLast, cleared r row = { row with isLast } := by
  unfold cleared
  split
  · exact ⟨false, rfl⟩
  · exact ⟨row.isLast, rfl⟩

theorem uuid_cleared (r : TaskReport) (row : ActivityRow String String) :
    (cleared r row).uuid = row.uuid := by
  obtain ⟨isLast, h⟩ := cleared_cases r row
  rw [h]

theorem map_uuid_cleared (r : TaskReport) (rows : List (ActivityRow String String)) :
    (rows.map (cleared r)).map (·.uuid) = rows.map (·.uuid) := by
  rw [List.map_map]
  exact List.map_congr_left fun row _ => uuid_cleared r row

namespace ActivityRow

variable (row : ActivityRow String String)

def report : TaskReport :=
  ⟨row.uuid, row.component, row.taskType⟩

def renewed (old : ActivityRow String String) : ActivityRow String String :=
  { old with
    analysis := row.analysis, status := row.status, isLast := true, executedAt := row.executedAt }

theorem renewed_cleared (r : TaskReport) (old : ActivityRow String String) :
    row.renewed (cleared r old) = row.renewed old := by
  obtain ⟨isLast, h⟩ := cleared_cases r old
  rw [h]
  rfl

end ActivityRow

def reported (row : ActivityRow String String) (rows : List (ActivityRow String String)) :
    List (ActivityRow String String) :=
  upserted (fun old => old.uuid = row.uuid) row.renewed row (rows.map (cleared row.report))

theorem analysis_find?_reported (row : ActivityRow String String)
    (rows : List (ActivityRow String String)) :
    ((reported row rows).find? (·.uuid = row.uuid)).bind (·.analysis) = row.analysis := by
  have found : (reported row rows).find? (·.uuid = row.uuid) = some _ :=
    find?_upserted (fun _ same => same) rfl
  rw [found]
  cases (rows.map (cleared row.report)).find? (·.uuid = row.uuid) <;> rfl

theorem mem_reported {row x : ActivityRow String String} {rows : List (ActivityRow String String)}
    (distinct : (rows.map (·.uuid)).Nodup) : x ∈ reported row rows ↔
      (∃ old ∈ rows, old.uuid ≠ row.uuid ∧ x = cleared row.report old) ∨
      (∃ old ∈ rows, old.uuid = row.uuid ∧ x = row.renewed old) ∨
      ((∀ old ∈ rows, old.uuid ≠ row.uuid) ∧ x = row) := by
  rw [← map_uuid_cleared row.report] at distinct
  rw [reported, mem_upserted_iff distinct]
  refine or_congr ⟨?_, ?_⟩ (or_congr ?_ ?_)
  · rintro ⟨hx, hother⟩
    obtain ⟨old, hold, rfl⟩ := List.mem_map.1 hx
    exact ⟨old, hold, uuid_cleared row.report old ▸ hother, rfl⟩
  · rintro ⟨old, hold, hother, rfl⟩
    exact ⟨List.mem_map_of_mem hold, (uuid_cleared row.report old).symm ▸ hother⟩
  · simp only [List.mem_map, exists_exists_and_eq_and, uuid_cleared, ActivityRow.renewed_cleared]
  · simp only [List.forall_mem_map, uuid_cleared]

structure Told (reports : List TaskReport) (rows : List (ActivityRow String String)) : Prop where
  distinct : (rows.map (·.uuid)).Nodup
  owned : ∀ row ∈ rows, owner? row.uuid reports = some (row.component, row.taskType)
  kept : ∀ r ∈ reports, ∃ row ∈ rows, row.uuid = r.uuid
  marked : ∀ row ∈ rows, ∀ component, row.component = some component →
    (row.isLast = true ↔ row.uuid ∈ recent (some component) row.taskType reports)

namespace Told

variable {reports : List TaskReport} {rows : List (ActivityRow String String)}

theorem nil : Told [] [] :=
  ⟨by simp, by simp, by simp, by simp⟩

theorem isLast_cleared (h : Told reports rows) {r : TaskReport} {row : ActivityRow String String}
    {component : String} (hrow : row ∈ rows) (hcomponent : row.component = some component)
    (hother : row.uuid ≠ r.uuid) :
    (cleared r row).isLast = true ↔
      row.uuid ∈ recent (some component) row.taskType (r :: reports) := by
  rw [recent, List.mem_cons, cleared, names, hcomponent]
  by_cases hnames : r.component = some component ∧ r.taskType = row.taskType
  · simp [hnames.1, hnames.2, hother]
  · have hnot : ¬ (some component = r.component ∧ row.taskType = r.taskType) :=
      fun hn => hnames ⟨hn.1.symm, hn.2.symm⟩
    have hclear : (r.component.isSome && decide (some component = r.component) &&
        decide (row.taskType = r.taskType)) = false := by
      rw [Bool.and_assoc, ← Bool.decide_and, decide_eq_false hnot, Bool.and_false]
    have hrecent : (decide (r.component = some component) && decide (r.taskType = row.taskType)) =
        false := by
      rw [← Bool.decide_and, decide_eq_false hnames]
    rw [hclear, hrecent]
    simpa [hother] using h.marked row hrow component hcomponent

theorem recent_self (r : TaskReport) (component : Option String) (taskType : String) :
    r.uuid ∈ recent component taskType (r :: reports) :=
  List.mem_cons_self

theorem owner?_eq_none (h : Told reports rows) {r : TaskReport}
    (hnew : ∀ row ∈ rows, row.uuid ≠ r.uuid) : owner? r.uuid reports = none := by
  rw [← Option.not_isSome_iff_eq_none, owner?_isSome]
  rintro ⟨q, hq, huuid⟩
  obtain ⟨row, hrow, hrowUuid⟩ := h.kept q hq
  exact hnew row hrow (hrowUuid.trans huuid)

section Report

variable {row x : ActivityRow String String} (h : Told reports rows)
include h

theorem owned_reported (hx : x ∈ reported row rows) :
    owner? x.uuid (row.report :: reports) = some (x.component, x.taskType) := by
  rcases (mem_reported h.distinct).1 hx with ⟨old, hold, -, rfl⟩ | ⟨old, hold, -, rfl⟩ | ⟨hnew, rfl⟩
  · obtain ⟨isLast, hcleared⟩ := cleared_cases row.report old
    rw [hcleared]
    exact owner?_cons_of_some (h.owned old hold)
  · -- a task keeps the component and type of its row
    exact owner?_cons_of_some (h.owned old hold)
  · exact owner?_cons_of_none (r := x.report) (h.owner?_eq_none hnew)

theorem kept_reported {r : TaskReport} (hr : r ∈ row.report :: reports) :
    ∃ x ∈ reported row rows, x.uuid = r.uuid := by
  by_cases hsame : ∃ old ∈ rows, old.uuid = r.uuid
  · obtain ⟨old, hold, huuid⟩ := hsame
    by_cases hk : old.uuid = row.uuid
    · exact ⟨row.renewed old, (mem_reported h.distinct).2 (.inr (.inl ⟨old, hold, hk, rfl⟩)), huuid⟩
    · refine ⟨cleared row.report old, (mem_reported h.distinct).2 (.inl ⟨old, hold, hk, rfl⟩), ?_⟩
      rw [uuid_cleared, huuid]
  · rcases List.mem_cons.1 hr with rfl | hr
    · refine ⟨row, (mem_reported h.distinct).2 (.inr (.inr ⟨fun old hold hk => ?_, rfl⟩)), rfl⟩
      exact hsame ⟨old, hold, hk⟩
    · exact absurd (h.kept r hr) hsame

theorem marked_reported (hlast : row.isLast = true) (hx : x ∈ reported row rows)
    {component : String} (hcomponent : x.component = some component) :
    x.isLast = true ↔ x.uuid ∈ recent (some component) x.taskType (row.report :: reports) := by
  rcases (mem_reported h.distinct).1 hx with ⟨old, hold, hk, rfl⟩ | ⟨old, -, hk, rfl⟩ | ⟨-, rfl⟩
  · obtain ⟨isLast, hcleared⟩ := cleared_cases row.report old
    have htype : (cleared row.report old).taskType = old.taskType := by rw [hcleared]
    have howner : old.component = some component := by rw [← hcomponent, hcleared]
    rw [uuid_cleared, htype]
    exact h.isLast_cleared hold howner hk
  · have huuid : (row.renewed old).uuid = row.uuid := hk
    rw [huuid]
    exact iff_of_true rfl (recent_self row.report _ _)
  · exact iff_of_true hlast (recent_self x.report _ _)

theorem reported (hlast : row.isLast = true) : Told (row.report :: reports)
    (reported row rows) where
  distinct := keys_upserted (map_uuid_cleared row.report rows ▸ h.distinct) (fun _ hk => hk) rfl
  owned := fun _ hx => h.owned_reported hx
  kept := fun _ hr => h.kept_reported hr
  marked := fun _ hx _ hcomponent => h.marked_reported hlast hx hcomponent

end Report

end Told

section WithActivity

variable {s t : Store} {now : Moment} {uuid taskType : String} {component analysis : Option String}
  {status : TaskStatus} {submittedAt : Option Moment}

theorem withActivity_eq_ok
    (h : s.withActivity now uuid component status analysis taskType submittedAt = .ok t) :
    ∃ executed submitted, storedDate now = .ok executed ∧
      storedDate (submittedAt.getD now) = .ok submitted ∧
      t = { s with
        activities := reported
          ⟨uuid, taskType, component, analysis, status.name, true, submitted, some executed⟩
          s.activities } := by
  obtain ⟨executed, hexecuted, h⟩ := bind_eq_ok.1 h
  cases submittedAt with
  | none =>
    cases h
    exact ⟨executed, executed, hexecuted, hexecuted, rfl⟩
  | some date =>
    obtain ⟨submitted, hsubmitted, h⟩ := bind_eq_ok.1 h
    cases h
    exact ⟨executed, submitted, hexecuted, hsubmitted, rfl⟩

theorem Told.withActivity {reports : List TaskReport} (h : Told reports s.activities)
    (ht : s.withActivity now uuid component status analysis taskType submittedAt = .ok t) :
    Told (⟨uuid, component, taskType⟩ :: reports) t.activities := by
  obtain ⟨executed, submitted, -, -, rfl⟩ := withActivity_eq_ok ht
  let row : ActivityRow String String :=
    ⟨uuid, taskType, component, analysis, status.name, true, submitted, some executed⟩
  have marked : row.isLast = true := rfl
  exact h.reported marked

end WithActivity

namespace Store

def lastTasks (s : Store) (component taskType : String) : List (ActivityRow String String) :=
  s.activities.filter fun row =>
    row.component = some component && row.taskType = taskType && row.isLast

end Store

namespace Told

variable {s : Store} {reports : List TaskReport} (h : Told reports s.activities)
  {component taskType : String}
include h

theorem mem_lastTasks {row : ActivityRow String String} :
    row ∈ s.lastTasks component taskType ↔
      row ∈ s.activities ∧ row.component = some component ∧ row.taskType = taskType ∧
        row.uuid ∈ recent (some component) taskType reports := by
  rw [Store.lastTasks, List.mem_filter, Bool.and_eq_true, Bool.and_eq_true, decide_eq_true_eq,
    decide_eq_true_eq]
  constructor
  · rintro ⟨hrow, ⟨hcomponent, rfl⟩, hlast⟩
    exact ⟨hrow, hcomponent, rfl, (h.marked row hrow component hcomponent).1 hlast⟩
  · rintro ⟨hrow, hcomponent, rfl, hrecent⟩
    exact ⟨hrow, ⟨hcomponent, rfl⟩, (h.marked row hrow component hcomponent).2 hrecent⟩

theorem exists_mem_lastTasks {u : String} (hrecent : u ∈ recent (some component) taskType reports)
    (howner : owner? u reports = some (some component, taskType)) :
    ∃ row ∈ s.lastTasks component taskType, row.uuid = u := by
  obtain ⟨r, hr, rfl, -⟩ := mem_recent hrecent
  obtain ⟨row, hrow, huuid⟩ := h.kept r hr
  have owned := h.owned row hrow
  rw [huuid, howner] at owned
  obtain ⟨hcomponent, htype⟩ : some component = row.component ∧ taskType = row.taskType := by
    simpa using owned
  exact ⟨row, h.mem_lastTasks.2 ⟨hrow, hcomponent.symm, htype.symm, huuid ▸ hrecent⟩, huuid⟩

theorem length_lastTasks_le_one_iff (component taskType : String) :
    (s.lastTasks component taskType).length ≤ 1 ↔
      ∀ u ∈ recent (some component) taskType reports,
        ∀ v ∈ recent (some component) taskType reports,
          owner? u reports = some (some component, taskType) →
          owner? v reports = some (some component, taskType) → u = v := by
  have distinct : ((s.lastTasks component taskType).map (·.uuid)).Nodup :=
    h.distinct.sublist (List.filter_sublist.map _)
  rw [length_le_one_iff distinct]
  constructor
  · intro same u hu v hv ownerU ownerV
    obtain ⟨a, ha, rfl⟩ := h.exists_mem_lastTasks hu ownerU
    obtain ⟨b, hb, rfl⟩ := h.exists_mem_lastTasks hv ownerV
    exact same a ha b hb
  · intro same a ha b hb
    obtain ⟨hrowA, hcomponentA, htypeA, hrecentA⟩ := h.mem_lastTasks.1 ha
    obtain ⟨hrowB, hcomponentB, htypeB, hrecentB⟩ := h.mem_lastTasks.1 hb
    refine same a.uuid hrecentA b.uuid hrecentB ?_ ?_
    · rw [h.owned a hrowA, hcomponentA, htypeA]
    · rw [h.owned b hrowB, hcomponentB, htypeB]

end Told

end AnalysisWebhooks
