import AnalysisWebhooks.Proofs.Text.Encoding
import AnalysisWebhooks.Store.Analyses

namespace AnalysisWebhooks

open Calendar Check

theorem orFailure_eq_ok {α : Type} {name : String} {c : Check α} {a : α} :
    c.orFailure name = .ok a ↔ c = .ok a := by
  cases c with
  | ok b => simp [orFailure]
  | bad faults =>
    rw [orFailure]
    split <;> simp

theorem oneOf_eq_ok {α : Type} {names : List (String × α)} {s : String} {a : α} :
    oneOf names (.text s) = ok a ↔ names.lookup s = some a := by
  rw [oneOf]
  cases names.lookup s <;> simp [fail]

theorem storedText_eq_ok {s : String} {m : Moment} :
    storedText s = ok m ↔ readStored s = .ok m := by
  unfold storedText
  split
  · rename_i h
    simp [h]
  · rename_i h
    simp [h, fail]
  · rename_i h
    simp [h, fail]

theorem eq_name_of_lookup {α : Type} {name : α → String} {values : List α} {text : String} {a : α}
    (h : (values.map fun a => (name a, a)).lookup text = some a) : text = name a := by
  induction values with
  | nil => cases h
  | cons b rest ih =>
    rw [List.map_cons, List.lookup_cons] at h
    by_cases hb : text = name b
    · simp only [hb, beq_self_eq_true, Option.some.injEq] at h
      rw [hb, h]
    · simp only [beq_false_of_ne hb] at h
      exact ih h

theorem BranchKind.lookup_eq_some {text : String} {kind : BranchKind} :
    names.lookup text = some kind ↔ text = kind.name := by
  constructor
  · exact eq_name_of_lookup
  · rintro rfl
    exact lookup_name kind

theorem TaskStatus.lookup_eq_some {text : String} {status : TaskStatus} :
    names.lookup text = some status ↔ text = status.name := by
  constructor
  · exact eq_name_of_lookup
  · rintro rfl
    exact lookup_name status

theorem BranchRow.read_eq_ok {row : BranchRow String} {b : BranchRow BranchKind} :
    row.read = .ok b ↔ row.kind = b.kind.name ∧ b = { row with kind := b.kind } := by
  rw [read, orFailure_eq_ok, Check.map_eq_ok]
  simp only [within_eq_ok, oneOf_eq_ok, BranchKind.lookup_eq_some]
  constructor
  · rintro ⟨kind, h, rfl⟩
    exact ⟨h, rfl⟩
  · rintro ⟨h, hb⟩
    exact ⟨b.kind, h, hb.symm⟩

theorem SnapshotRow.read_eq_ok {row : SnapshotRow String} {r : SnapshotRow Moment} :
    row.read = .ok r ↔
      readStored row.createdAt = .ok r.createdAt ∧ r = { row with createdAt := r.createdAt } := by
  rw [read, orFailure_eq_ok, Check.map_eq_ok]
  simp only [within_eq_ok, storedText_eq_ok]
  constructor
  · rintro ⟨date, h, rfl⟩
    exact ⟨h, rfl⟩
  · rintro ⟨h, hr⟩
    exact ⟨r.createdAt, h, hr.symm⟩

theorem ActivityRow.readExecuted_eq_ok {text : Option String} {executed : Option Moment} :
    readExecuted text = ok executed ↔
      (text = none ∧ executed = none) ∨
        ∃ s m, text = some s ∧ executed = some m ∧ readStored s = .ok m := by
  cases text with
  | none => simp [readExecuted, eq_comm]
  | some s =>
    rw [readExecuted, Check.map_eq_ok]
    simp only [within_eq_ok, storedText_eq_ok]
    constructor
    · rintro ⟨m, h, rfl⟩
      exact .inr ⟨s, m, rfl, rfl, h⟩
    · rintro (⟨h, -⟩ | ⟨t, m, h, rfl, hm⟩)
      · cases h
      · cases h
        exact ⟨m, hm, rfl⟩

theorem ActivityRow.read_eq_ok {row : ActivityRow String String}
    {r : ActivityRow TaskStatus Moment} :
    row.read = .ok r ↔ row.status = r.status.name ∧
      readStored row.submittedAt = .ok r.submittedAt ∧
      readExecuted row.executedAt = ok r.executedAt ∧
      r = { row with
        status := r.status, submittedAt := r.submittedAt, executedAt := r.executedAt } := by
  rw [read, orFailure_eq_ok]
  simp only [seq_eq_ok, Check.map_eq_ok, within_eq_ok, oneOf_eq_ok, storedText_eq_ok,
    TaskStatus.lookup_eq_some]
  constructor
  · rintro ⟨_, executed, ⟨_, submitted, ⟨status, hstatus, rfl⟩, hsubmitted, rfl⟩, hexecuted, rfl⟩
    exact ⟨hstatus, hsubmitted, hexecuted, rfl⟩
  · rintro ⟨hstatus, hsubmitted, hexecuted, hr⟩
    exact ⟨_, _, ⟨_, _, ⟨_, hstatus, rfl⟩, hsubmitted, rfl⟩, hexecuted, hr.symm⟩

theorem DeliveryRow.read_eq_ok {withPayload : Bool} {row : DeliveryRow String String}
    {r : DeliveryRow (Option String) Moment} :
    row.read withPayload = .ok r ↔ readStored row.createdAt = .ok r.createdAt ∧
      r = { row with
        payload := if withPayload then some row.payload else none, createdAt := r.createdAt } := by
  rw [read, orFailure_eq_ok, Check.map_eq_ok]
  simp only [within_eq_ok, storedText_eq_ok]
  constructor
  · rintro ⟨date, h, rfl⟩
    exact ⟨h, rfl⟩
  · rintro ⟨h, hr⟩
    exact ⟨r.createdAt, h, hr.symm⟩

namespace Store

structure Binds (values : List RawText) : Prop where
  few : values.length ≤ parameterLimit
  unicode : ∀ t ∈ values, t.isUnicode = true

variable {values : List RawText} {keys : List String}

theorem bound_eq_ok :
    bound values = .ok keys ↔ values.length ≤ parameterLimit ∧ values = keys.map .plain := by
  unfold bound
  split
  · rename_i many
    exact ⟨nofun, fun h => absurd h.1 (Nat.not_le.2 many)⟩
  · rename_i few
    rw [RawText.mapM_encoded_eq_ok, and_iff_right (Nat.not_lt.1 few)]

theorem bound_plain (few : keys.length ≤ parameterLimit) : bound (keys.map .plain) = .ok keys :=
  bound_eq_ok.2 ⟨by rwa [List.length_map], rfl⟩

theorem exists_bound : (∃ keys, bound values = .ok keys) ↔ Binds values := by
  simp only [bound_eq_ok, exists_and_left]
  rw [← exists_congr fun _ => RawText.mapM_encoded_eq_ok, RawText.exists_mapM_encoded]
  exact ⟨fun h => ⟨h.1, h.2⟩, fun h => ⟨h.few, h.unicode⟩⟩

end Store

end AnalysisWebhooks
