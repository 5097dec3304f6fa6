import AnalysisWebhooks.Schema.Database

namespace AnalysisWebhooks

namespace Store

variable {s : Store}

def TaskNames (s : Store) (task analysis : String) : Prop :=
  ∃ activity ∈ s.activities, activity.uuid = task ∧ activity.analysis = some analysis

inductive Backfill (s : Store) :
    List (DeliveryRow String String) → List (DeliveryRow String String) → Nat → Prop
  | nil : Backfill s [] [] 0
  | kept {row rows left n} (named : row.analysis ≠ none) (rest : Backfill s rows left n) :
      Backfill s (row :: rows) (row :: left) n
  | resolved {row rows left n task analysis} (unnamed : row.analysis = none)
      (ofTask : row.task = some task) (known : s.TaskNames task analysis)
      (rest : Backfill s rows left n) :
      Backfill s (row :: rows) ({ row with analysis := some analysis } :: left) n
  | removed {row rows left n} (unnamed : row.analysis = none)
      (unknown : ∀ task analysis, row.task = some task → ¬ s.TaskNames task analysis)
      (rest : Backfill s rows left n) :
      Backfill s (row :: rows) left (n + 1)

theorem find?_of_nodup {α : Type} {key : α → String} {rows : List α} {row : α}
    (distinct : (rows.map key).Nodup) (h : row ∈ rows) :
    rows.find? (fun other => key other = key row) = some row := by
  induction rows with
  | nil => cases h
  | cons first rest ih =>
    obtain ⟨absent, distinct⟩ := List.nodup_cons.1 distinct
    rcases List.mem_cons.1 h with rfl | h
    · simp
    · have other : key first ≠ key row := fun hkey => absent (hkey ▸ List.mem_map_of_mem h)
      simpa [other] using ih distinct h

theorem analysisOfTask_eq_some (distinct : (s.activities.map (·.uuid)).Nodup)
    {task analysis : String} :
    s.analysisOfTask task = some analysis ↔ s.TaskNames task analysis := by
  constructor
  · intro h
    obtain ⟨activity, found, named⟩ := Option.bind_eq_some_iff.1 h
    have same : activity.uuid = task := by simpa using List.find?_some found
    exact ⟨activity, List.mem_of_find?_eq_some found, same, named⟩
  · rintro ⟨activity, mem, rfl, named⟩
    rw [analysisOfTask, find?_of_nodup distinct mem]
    exact named

theorem resolved_of_named {row : DeliveryRow String String} (h : row.analysis ≠ none) :
    s.resolved row = row := by
  unfold resolved
  split
  · rfl
  · contradiction

theorem resolved_of_unnamed {row : DeliveryRow String String} (h : row.analysis = none) :
    s.resolved row = { row with analysis := row.task.bind s.analysisOfTask } := by
  rw [resolved, h]

theorem exists_backfill (distinct : (s.activities.map (·.uuid)).Nodup)
    (rows : List (DeliveryRow String String)) :
    ∃ n, s.Backfill rows ((rows.map s.resolved).filter (·.analysis.isSome)) n := by
  induction rows with
  | nil => exact ⟨0, .nil⟩
  | cons row rows ih =>
    obtain ⟨n, rest⟩ := ih
    rw [List.map_cons]
    by_cases named : row.analysis = none
    · rw [resolved_of_unnamed named]
      cases known : row.task.bind s.analysisOfTask with
      | none =>
        refine ⟨n + 1, .removed named (fun task analysis ofTask names => ?_) rest⟩
        rw [ofTask, Option.bind_some, (analysisOfTask_eq_some distinct).2 names] at known
        cases known
      | some analysis =>
        obtain ⟨task, ofTask, names⟩ := Option.bind_eq_some_iff.1 known
        exact ⟨n, .resolved named ofTask ((analysisOfTask_eq_some distinct).1 names) rest⟩
    · refine ⟨n, ?_⟩
      simpa [resolved_of_named named, Option.isSome_iff_ne_none, named] using rest.kept named

theorem Backfill.length {rows left : List (DeliveryRow String String)} {n : Nat}
    (h : s.Backfill rows left n) : rows.length = left.length + n := by
  induction h with
  | nil => rfl
  | kept _ _ ih | resolved _ _ _ _ ih | removed _ _ _ ih =>
    simp only [List.length_cons]
    omega

theorem Backfill.named {rows left : List (DeliveryRow String String)} {n : Nat}
    (h : s.Backfill rows left n) : ∀ row ∈ left, row.analysis ≠ none := by
  induction h with
  | nil => simp
  | kept named _ ih => exact List.forall_mem_cons.2 ⟨named, ih⟩
  | resolved _ _ _ _ ih => exact List.forall_mem_cons.2 ⟨Option.some_ne_none _, ih⟩
  | removed _ _ _ ih => exact ih

theorem backfilled_of_named (h : ∀ row ∈ s.deliveries, row.analysis ≠ none) :
    s.backfilled = s := by
  have same : s.deliveries.map s.resolved = s.deliveries := by
    rw [List.map_congr_left fun row hrow => resolved_of_named (h row hrow), List.map_id']
  have all : s.deliveries.filter (·.analysis.isSome) = s.deliveries :=
    List.filter_eq_self.2 fun row hrow => Option.isSome_iff_ne_none.2 (h row hrow)
  rw [backfilled, same, all]

end Store

namespace Database

variable {db : Database} {r : Revision}

def withDeliveries (db : Database) (rows : List (DeliveryRow String String)) : Database :=
  { db with store := { db.store with deliveries := rows } }

theorem backfill_of_column (hrevision : db.revision = some r) (column : r ≠ .initial) :
    db.backfill = .ok (db.store.deliveries.length - db.store.backfilled.deliveries.length,
      { db with store := db.store.backfilled }) := by
  rw [backfill, hrevision]
  cases r with
  | initial => contradiction
  | analysisColumn | analysisFilled => rfl

theorem backfill_of_named (hrevision : db.revision = some r) (column : r ≠ .initial)
    (h : ∀ row ∈ db.store.deliveries, row.analysis ≠ none) : db.backfill = .ok (0, db) := by
  rw [backfill_of_column hrevision column, Store.backfilled_of_named h, Nat.sub_self]

theorem backfill_resolves_or_removes (hrevision : db.revision = some r) (column : r ≠ .initial)
    (distinct : (db.store.activities.map (·.uuid)).Nodup) :
    ∃ left removed,
      db.store.Backfill db.store.deliveries left removed ∧
      db.backfill = .ok (removed, db.withDeliveries left) ∧
      (∀ row ∈ left, row.analysis ≠ none) ∧
      (db.withDeliveries left).backfill = .ok (0, db.withDeliveries left) := by
  obtain ⟨removed, fates⟩ := Store.exists_backfill distinct db.store.deliveries
  refine ⟨_, removed, fates, ?_, fates.named, ?_⟩
  · have count : db.store.deliveries.length - db.store.backfilled.deliveries.length = removed := by
      rw [fates.length]
      exact Nat.add_sub_cancel_left ..
    rw [backfill_of_column hrevision column, count]
    rfl
  · exact backfill_of_named hrevision column fates.named

def partlyFilled : Database where
  revision := some .analysisColumn
  marked := true
  store :=
    { activities :=
        [⟨"T1", "REPORT", some "P", none, "FAILED", false, "2024-05-01", none⟩,
          ⟨"T2", "REPORT", some "P", some "A2", "SUCCESS", true, "2024-05-02", none⟩]
      deliveries :=
        [⟨"D1", "P", some "T2", some "A1", "CI", "u", true, some 200, some 5, "", none, "2024"⟩,
          ⟨"D2", "P", none, none, "CI", "u", true, some 200, some 5, "", none, "2024"⟩,
          ⟨"D3", "P", some "T3", none, "CI", "u", true, some 200, some 5, "", none, "2024"⟩,
          ⟨"D4", "P", some "T1", none, "CI", "u", true, some 200, some 5, "", none, "2024"⟩,
          ⟨"D5", "P", some "T2", none, "CI", "u", true, some 200, some 5, "", none, "2024"⟩] }

theorem backfill_resolves_or_removes_partlyFilled :
    ∃ left, partlyFilled.backfill = .ok (3, partlyFilled.withDeliveries left) ∧
      left.map (fun row => (row.uuid, row.analysis)) = [("D1", some "A1"), ("D5", some "A2")] ∧
      (partlyFilled.withDeliveries left).backfill = .ok (0, partlyFilled.withDeliveries left) := by
  have column : partlyFilled.revision = some .analysisColumn := rfl
  obtain ⟨left, removed, -, run, -, again⟩ :=
    backfill_resolves_or_removes column (by decide) (by decide)
  have direct : partlyFilled.backfill =
      .ok (3, partlyFilled.withDeliveries partlyFilled.store.backfilled.deliveries) := rfl
  obtain ⟨rfl, hleft⟩ := Prod.mk.inj (Except.ok.inj (run.symm.trans direct))
  obtain rfl : left = partlyFilled.store.backfilled.deliveries :=
    congrArg (·.store.deliveries) hleft
  exact ⟨_, run, by decide, again⟩

end Database

end AnalysisWebhooks
