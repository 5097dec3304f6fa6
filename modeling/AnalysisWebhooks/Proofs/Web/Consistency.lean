import AnalysisWebhooks.Proofs.Service.Consistency
import AnalysisWebhooks.Proofs.Web.Appended

namespace AnalysisWebhooks

open AnalysisWebhooks.Action

def Request.answers (r : Request) (s : Service) : List (DeliveryRow String String × Endpoint) :=
  answersOfNotices (r.notices s) (r.recorded s)

inductive DeliveryRun : Store → List (DeliveryRow String String × Endpoint) → Prop
  | empty : DeliveryRun {} []
  | request {s : Service} {told : List (DeliveryRow String String × Endpoint)} (r : Request)
      (run : DeliveryRun s.store told) :
      DeliveryRun ((handle .webhooks r).after s).store
        (told ++ r.answers s)
  | call {s : Store} {t : Store} {told : List (DeliveryRow String String × Endpoint)}
      {u v : Service} {w : Webhook} {payload : Payload} {d : Delivery} {uuid : String}
      {row : DeliveryRow String String} (run : DeliveryRun s told)
      (called : w.call payload u = .ok d v) (written : DeliveryRow.ofDelivery uuid d = .ok row)
      (recorded : s.withDelivery uuid d = .ok t) :
      DeliveryRun t (told ++ [(row, u.endpoint row.url)])
  | trim {s t : Store} {told : List (DeliveryRow String String × Endpoint)} {project : String}
      {retention : Int} {removed : Nat} (run : DeliveryRun s told)
      (trimmed : s.trimmed project retention = .ok (removed, t)) : DeliveryRun t told

variable {r : Request} {s : Service} {row : DeliveryRow String String}

theorem Request.deliveries_recorded (r : Request) (s : Service) :
    (r.recorded s).store.deliveries = s.store.deliveries := by
  unfold recorded
  split
  · exact (FinishedAnalysis.left_frame _ s.clock s.store).2
  · rfl

theorem mem_deliveries_handle (h : row ∈ ((handle .webhooks r).after s).store.deliveries) :
    row ∈ s.store.deliveries ∨ row ∈ r.appended s := by
  obtain ⟨t, appends, same⟩ := appends_handle r s
  rw [same] at h
  rw [← r.deliveries_recorded s]
  exact appends.mem h

theorem exists_answer (h : row ∈ r.appended s) : ∃ e, (row, e) ∈ r.answers s := by
  rw [Request.appended, ← rows_answersOfNotices] at h
  obtain ⟨⟨_, e⟩, he, rfl⟩ := List.mem_map.1 h
  exact ⟨e, he⟩

structure DeliveriesTell (s : Store) (told : List (DeliveryRow String String × Endpoint)) :
    Prop where
  left : ∀ row ∈ s.deliveries, ∃ e, (row, e) ∈ told
  consistent : ∀ entry ∈ told, entry.1.Consistent entry.2

theorem DeliveriesTell.adding {s t : Store}
    {told more : List (DeliveryRow String String × Endpoint)} (h : DeliveriesTell s told)
    (left : ∀ row ∈ t.deliveries, row ∈ s.deliveries ∨ ∃ e, (row, e) ∈ more)
    (consistent : ∀ entry ∈ more, entry.1.Consistent entry.2) :
    DeliveriesTell t (told ++ more) where
  left row hrow := by
    rcases left row hrow with old | ⟨e, he⟩
    · obtain ⟨e, he⟩ := h.left row old
      exact ⟨e, List.mem_append_left _ he⟩
    · exact ⟨e, List.mem_append_right _ he⟩
  consistent entry hentry := by
    rcases List.mem_append.1 hentry with old | new
    · exact h.consistent entry old
    · exact consistent entry new

theorem DeliveryRun.deliveriesTell {s : Store}
    {told : List (DeliveryRow String String × Endpoint)} (run : DeliveryRun s told) :
    DeliveriesTell s told := by
  induction run with
  | empty => exact ⟨List.forall_mem_nil _, List.forall_mem_nil _⟩
  | @request s told r run ih =>
    refine ih.adding (fun row hrow => ?_) fun entry hentry => ?_
    · rcases mem_deliveries_handle hrow with old | new
      · exact .inl old
      · exact .inr (exists_answer new)
    · exact consistent_of_mem_answersOfNotices entry hentry
  | call run called written recorded ih =>
    obtain ⟨new, hnew, -, rfl⟩ := withDelivery_eq_ok.1 recorded
    rw [written] at hnew
    cases hnew
    refine ih.adding (fun row hrow => ?_) fun entry hentry => ?_
    · rcases List.mem_append.1 hrow with old | new
      · exact .inl old
      · rw [List.mem_singleton.1 new]
        exact .inr ⟨_, List.mem_singleton_self _⟩
    · rw [List.mem_singleton.1 hentry]
      exact Webhook.consistent_of_call called written
  | @trim s t told project retention removed run trimmed ih =>
    have sub : t.deliveries.Sublist s.deliveries := by
      rw [trimmed_eq_ok trimmed]
      exact s.purged_sublist project _
    exact ⟨fun row hrow => ih.left row (sub.subset hrow), ih.consistent⟩

theorem deliveries_consistent {s : Store} {told : List (DeliveryRow String String × Endpoint)}
    (run : DeliveryRun s told) :
    ∀ row ∈ s.deliveries, ∃ e, (row, e) ∈ told ∧ row.Consistent e := by
  intro row hrow
  obtain ⟨e, he⟩ := run.deliveriesTell.left row hrow
  exact ⟨e, he, run.deliveriesTell.consistent _ he⟩

def unreadable : Endpoint where
  status := 204
  readFault := some .timeout

def unreadRow : DeliveryRow String String where
  uuid := "d"
  project := "p"
  task := some "t"
  analysis := some "a"
  name := "hook"
  url := "http://h"
  success := false
  httpStatus := some 204
  durationMs := some 0
  payload := "body"
  error := some "Timeout while waiting for the webhook endpoint"
  createdAt := "2026-10-18T12:00:00.000000Z"

theorem deliveries_consistent_unread :
    DeliveryRun { deliveries := [unreadRow] } [(unreadRow, unreadable)] ∧
      unreadRow.Consistent unreadable := by
  let payload : Payload := ⟨"project", "body"⟩
  let d : Delivery := ⟨unreadRow.webhook, payload, Calendar.noon, some 204, some 0, unreadRow.error⟩
  let u : Service := { network := { endpoint := fun _ _ => unreadable } }
  have came : (match unreadRow.webhook.call payload u with
      | .ok d _ => some d
      | .error _ _ => none) = some d := by decide +kernel
  have written : DeliveryRow.ofDelivery "d" d = .ok unreadRow := by decide +kernel
  have recorded : ({} : Store).withDelivery "d" d = .ok { deliveries := [unreadRow] } := by
    decide +kernel
  cases called : unreadRow.webhook.call payload u with
  | error failure v =>
    rw [called] at came
    cases came
  | ok made v =>
    rw [called] at came
    cases came
    have run : DeliveryRun { deliveries := [unreadRow] } [(unreadRow, unreadable)] :=
      .call .empty called written recorded
    obtain ⟨e, he, consistent⟩ := deliveries_consistent run unreadRow (List.mem_singleton_self _)
    cases List.mem_singleton.1 he
    exact ⟨run, consistent⟩

end AnalysisWebhooks
