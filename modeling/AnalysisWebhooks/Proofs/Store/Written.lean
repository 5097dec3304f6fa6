import AnalysisWebhooks.Proofs.Calendar.StoredText
import AnalysisWebhooks.Proofs.Store.Edits
import AnalysisWebhooks.Proofs.Store.Reading
import AnalysisWebhooks.Proofs.Store.Tasks

namespace AnalysisWebhooks

open Calendar

theorem storedDate_eq_ok {m : Moment} {text : String} :
    storedDate m = .ok text ↔ ∃ u, m.toUtc? = some u ∧ text = String.ofList u.utcChars := by
  unfold storedDate Moment.storedText?
  cases m.toUtc? with
  | none => simp
  | some u => simp [eq_comm]

def Calendar.Moment.IsFourDigit (m : Moment) : Prop :=
  ∃ u, m.toUtc? = some u ∧ 1000 ≤ u.date.year

def IsDated (text : String) : Prop :=
  ∃ u : Moment, text = String.ofList u.utcChars ∧ 1000 ≤ u.date.year

theorem isDated_storedDate {m : Moment} {text : String} (h : storedDate m = .ok text)
    (four : m.IsFourDigit) : IsDated text := by
  obtain ⟨u, hu, rfl⟩ := storedDate_eq_ok.1 h
  obtain ⟨v, hv, hyear⟩ := four
  rw [hu, Option.some.injEq] at hv
  exact ⟨u, rfl, hv ▸ hyear⟩

theorem IsDated.exists_read {text : String} (h : IsDated text) : ∃ m, readStored text = .ok m := by
  obtain ⟨u, rfl, hyear⟩ := h
  exact (exists_readStored_utcChars u).2 hyear

structure ActivityRow.IsWritten (row : ActivityRow String String) : Prop where
  status : ∃ status : TaskStatus, row.status = status.name
  submittedAt : IsDated row.submittedAt
  executedAt : ∃ text, row.executedAt = some text ∧ IsDated text

theorem ActivityRow.IsWritten.exists_read {row : ActivityRow String String} (h : row.IsWritten) :
    ∃ r, row.read = .ok r := by
  obtain ⟨status, hstatus⟩ := h.status
  obtain ⟨submitted, hsubmitted⟩ := h.submittedAt.exists_read
  obtain ⟨text, htext, hdated⟩ := h.executedAt
  obtain ⟨executed, hexecuted⟩ := hdated.exists_read
  have hread : readExecuted row.executedAt = .ok (some executed) :=
    readExecuted_eq_ok.2 (.inr ⟨text, executed, htext, rfl, hexecuted⟩)
  exact ⟨{ row with status, submittedAt := submitted, executedAt := some executed },
    ActivityRow.read_eq_ok.2 ⟨hstatus, hsubmitted, hread, rfl⟩⟩

theorem isWritten_cleared {r : TaskReport} {row : ActivityRow String String} (h : row.IsWritten) :
    (cleared r row).IsWritten := by
  obtain ⟨isLast, hcleared⟩ := cleared_cases r row
  rw [hcleared]
  exact ⟨h.status, h.submittedAt, h.executedAt⟩

theorem isWritten_of_mem_reported {fresh row : ActivityRow String String}
    {rows : List (ActivityRow String String)} (hfresh : fresh.IsWritten)
    (hrows : ∀ old ∈ rows, old.IsWritten) (h : row ∈ reported fresh rows) : row.IsWritten := by
  have hcleared : ∀ old ∈ rows.map (cleared fresh.report), old.IsWritten := by
    rw [List.forall_mem_map]
    exact fun old hold => isWritten_cleared (hrows old hold)
  rcases mem_upserted h with rfl | h | ⟨old, hold, -, rfl⟩
  · exact hfresh
  · exact hcleared row h
  · exact ⟨hfresh.status, (hcleared old hold).submittedAt, hfresh.executedAt⟩

namespace Store

structure Written (s : Store) : Prop where
  branches : ∀ row ∈ s.branches, ∃ kind : BranchKind, row.kind = kind.name
  snapshots : ∀ row ∈ s.snapshots, ∃ u : Moment, row.createdAt = String.ofList u.utcChars
  activities : ∀ row ∈ s.activities, row.IsWritten

variable {s t : Store} {now : Moment}

theorem Written.branch (h : s.Written) {uuid project key : String} {kind : BranchKind}
    (ht : s.withBranch uuid project key kind = .ok t) : t.Written := by
  rw [withBranch_eq_ok ht]
  refine ⟨fun row hrow => ?_, h.snapshots, h.activities⟩
  rcases mem_upserted hrow with rfl | hrow | ⟨_, -, -, rfl⟩
  · exact ⟨kind, rfl⟩
  · exact h.branches row hrow
  · exact ⟨kind, rfl⟩

theorem Written.snapshot (h : s.Written) {uuid component status : String} {date : Moment}
    (ht : s.withSnapshot uuid component date status = .ok t) : t.Written := by
  obtain ⟨createdAt, hdate, rfl⟩ := withSnapshot_eq_ok ht
  obtain ⟨u, -, hu⟩ := storedDate_eq_ok.1 hdate
  refine ⟨h.branches, fun row hrow => ?_, h.activities⟩
  rcases List.mem_append.1 hrow with hrow | hrow
  · split at hrow
    · obtain ⟨old, hold, rfl⟩ := List.mem_map.1 hrow
      obtain ⟨v, hv⟩ := h.snapshots old hold
      refine ⟨v, ?_⟩
      split <;> exact hv
    · exact h.snapshots row hrow
  · rw [List.mem_singleton.1 hrow]
    exact ⟨u, hu⟩

theorem Written.activity (h : s.Written) {uuid taskType : String}
    {component analysis : Option String} {status : TaskStatus} (four : now.IsFourDigit)
    (ht : s.withActivity now uuid component status analysis taskType none = .ok t) :
    t.Written := by
  obtain ⟨executed, submitted, hexecuted, hsubmitted, rfl⟩ := withActivity_eq_ok ht
  have fresh : ActivityRow.IsWritten
      ⟨uuid, taskType, component, analysis, status.name, true, submitted, some executed⟩ :=
    ⟨⟨status, rfl⟩, isDated_storedDate hsubmitted four, executed, rfl,
      isDated_storedDate hexecuted four⟩
  exact ⟨h.branches, h.snapshots, fun row => isWritten_of_mem_reported fresh h.activities⟩

theorem Written.edit (h : s.Written) (four : now.IsFourDigit) (ht : Edit now s t) : t.Written := by
  cases ht with
  | component => exact ⟨h.branches, h.snapshots, h.activities⟩
  | branch ht => exact h.branch ht
  | snapshot ht => exact h.snapshot ht
  | activity ht => exact h.activity four ht
  | others ht =>
    rw [ht]
    exact ⟨h.branches, h.snapshots, h.activities⟩

theorem Written.edits (h : s.Written) (four : now.IsFourDigit) (ht : Edits now s t) :
    t.Written := by
  induction ht with
  | refl => exact h
  | tail _ ht ih => exact ih.edit four ht

end Store

end AnalysisWebhooks
