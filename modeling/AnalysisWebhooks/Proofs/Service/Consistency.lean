import AnalysisWebhooks.Proofs.Service.Appending
import AnalysisWebhooks.Proofs.Service.Truthful

namespace AnalysisWebhooks

open AnalysisWebhooks.Action

structure DeliveryRow.Consistent (row : DeliveryRow String String) (e : Endpoint) : Prop where
  success_iff : row.success = true ↔ row.error = none
  accepted : row.success = true →
    ∃ status, row.httpStatus = some status ∧ 200 ≤ status ∧ status ≤ 299
  unanswered : row.httpStatus = none → row.success = false
  answered : e.fault = none → row.httpStatus = some e.status
  stopped : e.fault ≠ none → row.httpStatus = none
  unread : e.fault = none → e.readFault ≠ none → row.success = false
  short : ∀ text, row.error = some text → text.length ≤ 4000
  told : e.Named → ∀ text, row.error = some text → 1 ≤ text.length
  timed : row.durationMs ≠ none

namespace Delivery

variable {d : Delivery}

theorem errorMessage_ne_empty (h : d.error ≠ some "") : d.errorMessage ≠ some "" := by
  unfold errorMessage
  cases herror : d.error with
  | some text => rwa [herror] at h
  | none =>
    cases d.httpStatus with
    | none => exact nofun
    | some status =>
      dsimp only
      split
      · exact nofun
      · intro same
        have := congrArg String.length (Option.some.inj same)
        rw [String.length_append] at this
        have : "Server responded with HTTP ".length = 27 := by decide
        have : "".length = 0 := rfl
        omega

theorem Truthful.consistent {uuid : String} {w : Webhook} {payload : Payload} {e : Endpoint}
    {row : DeliveryRow String String} (truthful : d.Truthful w payload e)
    (timed : d.durationMs ≠ none) (h : DeliveryRow.ofDelivery uuid d = .ok row) :
    row.Consistent e := by
  obtain ⟨success, status, duration, error⟩ := DeliveryRow.columns_of_ofDelivery h
  have good (succeeded : d.success = true) : d.httpStatus = some e.status :=
    (truthful.status _).2 ⟨(Option.or_eq_none_iff.1 (truthful.success.1 succeeded).1).1, rfl⟩
  constructor
  case success_iff => rw [success, error, Option.map_eq_none_iff, truthful.errorMessage]
  case accepted =>
    rw [success, status]
    exact fun succeeded => ⟨e.status, good succeeded, (truthful.success.1 succeeded).2⟩
  case unanswered =>
    rw [success, status]
    intro missing
    rw [Delivery.success, missing]
    exact Bool.and_false _
  case answered =>
    rw [status]
    exact fun hfault => (truthful.status _).2 ⟨hfault, rfl⟩
  case stopped =>
    rw [status, Option.eq_none_iff_forall_ne_some]
    exact fun hfault answer received => hfault ((truthful.status answer).1 received).1
  case unread =>
    rw [success, ← Bool.not_eq_true]
    intro _ hread succeeded
    exact hread (Option.or_eq_none_iff.1 (truthful.success.1 succeeded).1).2
  case short =>
    intro text htext
    rw [error] at htext
    obtain ⟨message, -, rfl⟩ := Option.map_eq_some_iff.1 htext
    rw [String.length_ofList]
    exact List.length_take_le _ _
  case told =>
    intro named text htext
    rw [error] at htext
    obtain ⟨message, hmessage, rfl⟩ := Option.map_eq_some_iff.1 htext
    have filled : message.length ≠ 0 := by
      intro empty
      rw [show message = "" by simpa using empty] at hmessage
      exact errorMessage_ne_empty (truthful.filled named) hmessage
    rw [String.length_ofList, List.length_take, String.length_toList, errorLength]
    omega
  case timed => rwa [duration]

end Delivery

namespace Webhook

variable {w : Webhook} {payload : Payload} {s t : Service} {d : Delivery}

theorem durationMs_of_call (h : w.call payload s = .ok d t) : d.durationMs ≠ none := by
  obtain ⟨-, called⟩ | ⟨-, log, called⟩ := w.call_cases payload s
  · rw [called] at h
    cases h
  · rw [called] at h
    obtain ⟨told, ms, -, timed, made⟩ | ⟨failure, -, failed⟩ := w.delivery_cases payload s
    · rw [made] at h
      cases h
      exact timed ▸ Option.some_ne_none ms
    · rw [failed] at h
      cases h

theorem consistent_of_call {uuid : String} {row : DeliveryRow String String}
    (h : w.call payload s = .ok d t) (hrow : DeliveryRow.ofDelivery uuid d = .ok row) :
    row.Consistent (s.endpoint row.url) := by
  obtain ⟨tells, -⟩ := call_eq_ok h
  have url : row.url = w.url := by
    rw [← tells.webhook, ← (DeliveryRow.webhook_of_ofDelivery hrow).1]
    rfl
  rw [url]
  exact (truthful_of_call h).consistent (durationMs_of_call h) hrow

end Webhook

def Network.answering (n : Network) (earlier : Nat) (rows : List (DeliveryRow String String)) :
    List (DeliveryRow String String × Endpoint) :=
  (rows.zipIdx earlier).map fun row => (row.1, n.endpoint row.2 row.1.url)

section Rows

variable {payload : Payload} {webhooks : List Webhook} {deliveries : List Delivery} {s t : Service}

theorem consistent_of_delivered (h : DeliveredAll payload webhooks deliveries s t) :
    ∃ rows, t.store = s.store.addingDeliveries rows ∧
      ∀ entry ∈ s.network.answering s.calls.length rows, entry.1.Consistent entry.2 := by
  induction h with
  | nil s => exact ⟨[], by rw [Store.addingDeliveries, List.append_nil], List.forall_mem_nil _⟩
  | @cons w d rest more s called t store h hd _ ih =>
    obtain ⟨-, log, rfl⟩ := Webhook.call_eq_ok h
    obtain ⟨row, hrow, -, rfl⟩ := withDelivery_eq_ok.1 hd
    obtain ⟨rows, added, others⟩ := ih
    have store : t.store = (s.store.addingDeliveries [row]).addingDeliveries rows := added
    have one : (s.calls ++ [w.request payload s.settings.timeoutSeconds]).length =
        s.calls.length + 1 := List.length_append
    have others : ∀ entry ∈ s.network.answering (s.calls.length + 1) rows,
        entry.1.Consistent entry.2 := one ▸ others
    refine ⟨row :: rows, by rw [store, Store.addingDeliveries_append, List.singleton_append], ?_⟩
    exact List.forall_mem_cons.2 ⟨Webhook.consistent_of_call h hrow, others⟩

theorem consistent_of_mem_rowsOfCalls :
    ∀ entry ∈ s.network.answering s.calls.length (rowsOfCalls payload webhooks s),
      entry.1.Consistent entry.2 := by
  obtain ⟨before, deliveries, t, -, all, store⟩ := exists_delivered payload webhooks s
  obtain ⟨rows, added, consistent⟩ := consistent_of_delivered all
  rw [rowsOfCalls, store, added, Store.addingDeliveries, List.drop_left]
  exact consistent

def Notice.answers (n : Notice) (s : Service) : List (DeliveryRow String String × Endpoint) :=
  s.network.answering s.calls.length (n.rows s)

def answersOfNotices : List Notice → Service → List (DeliveryRow String String × Endpoint)
  | [], _ => []
  | n :: rest, s =>
    n.answers s ++ match n.tell s with
      | .ok _ t => answersOfNotices rest t
      | .error _ _ => []

theorem Network.rows_answering (n : Network) (earlier : Nat)
    (rows : List (DeliveryRow String String)) : (n.answering earlier rows).map (·.1) = rows := by
  rw [answering, List.map_map]
  exact List.zipIdx_map_fst earlier rows

theorem rows_answersOfNotices (notices : List Notice) (s : Service) :
    (answersOfNotices notices s).map (·.1) = rowsOfNotices notices s := by
  induction notices generalizing s with
  | nil => rfl
  | cons n rest ih =>
    rw [answersOfNotices, rowsOfNotices, List.map_append, Notice.answers, Network.rows_answering]
    cases n.tell s with
    | error failure t => rfl
    | ok _ t => exact congrArg (n.rows s ++ ·) (ih t)

theorem consistent_of_mem_answersOfNotices {notices : List Notice} :
    ∀ entry ∈ answersOfNotices notices s, entry.1.Consistent entry.2 := by
  induction notices generalizing s with
  | nil => exact List.forall_mem_nil _
  | cons n rest ih =>
    have first : ∀ entry ∈ n.answers s, entry.1.Consistent entry.2 := by
      unfold Notice.answers Notice.rows
      split
      · exact consistent_of_mem_rowsOfCalls
      · exact List.forall_mem_nil _
    intro entry h
    rcases List.mem_append.1 h with h | h
    · exact first entry h
    · split at h
      · exact ih entry h
      · cases h

end Rows

end AnalysisWebhooks
