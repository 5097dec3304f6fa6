import AnalysisWebhooks.Proofs.Decimal.Rounding
import AnalysisWebhooks.Proofs.Service.Dispatch

namespace AnalysisWebhooks

open AnalysisWebhooks.Action Decimal

def Metrics.observing (m : Metrics) (d : Delivery) : Metrics :=
  match d.durationMs with
  | none => m.countDelivery d.success
  | some ms => (m.countDelivery d.success).withDuration (max 0 ms).toNat

def Delivery.Measurable (d : Delivery) : Prop :=
  ∀ ms, d.durationMs = some ms → (floatOfInt? (max 0 ms)).isSome = true

structure Delivery.Tells (d : Delivery) (w : Webhook) (payload : Payload) (outcome : CallOutcome) :
    Prop where
  webhook : d.webhook = w
  payload : d.payload = payload
  status : d.httpStatus = outcome.status
  error : d.error = outcome.fault.map CallFault.description
  measurable : d.Measurable

theorem observeDelivery_apply {d : Delivery} (h : d.Measurable) (s : Service) :
    observeDelivery d.success d.durationMs s =
      .ok ⟨⟩ { s with metrics := s.metrics.observing d } := by
  unfold observeDelivery
  rw [bind_ok (measure_apply ..), Metrics.observing]
  cases hms : d.durationMs with
  | none => rfl
  | some ms =>
    obtain ⟨x, hx⟩ := Option.isSome_iff_exists.1 (h ms hms)
    dsimp only
    rw [hx]
    rfl

namespace Webhook

variable {w : Webhook} {payload : Payload} {s t : Service} {d : Delivery} {failure : Failure}

theorem measurable_of_milliseconds {seconds : Float} {ms : Int}
    (h : milliseconds seconds = .ok ms) : (floatOfInt? (max 0 ms)).isSome = true := by
  unfold milliseconds at h
  split at h
  · rename_i value hvalue
    cases h
    exact isSome_floatOfInt?_truncated hvalue
  · cases h
  · cases h

theorem delivery_eq_ok {u : Service} (h : w.delivery payload s t = .ok d u) :
    d.Tells w payload (s.endpoint w.url).outcome ∧ u = t := by
  cases hduration : milliseconds ((s.endpoint w.url).outcome.timer - s.timer) with
  | error failure =>
    simp only [delivery, hduration] at h
    cases h
  | ok duration =>
    simp only [delivery, hduration] at h
    cases h
    refine ⟨⟨rfl, rfl, rfl, rfl, fun ms hms => ?_⟩, rfl⟩
    cases hms
    exact measurable_of_milliseconds hduration

theorem delivery_eq_error {u : Service} (h : w.delivery payload s t = .error failure u) :
    u = t := by
  obtain ⟨d, -, -, -, hd⟩ | ⟨other, -, hd⟩ := w.delivery_cases payload s
  · rw [hd] at h
    cases h
  · rw [hd] at h
    cases h
    rfl

theorem call_eq_ok (h : w.call payload s = .ok d t) :
    d.Tells w payload (s.endpoint w.url).outcome ∧
      ∃ log, t = { s.calling w payload with log } := by
  obtain ⟨-, called⟩ | ⟨-, log, called⟩ := w.call_cases payload s
  · rw [called] at h
    cases h
  · rw [called] at h
    obtain ⟨tells, rfl⟩ := delivery_eq_ok h
    exact ⟨tells, log, rfl⟩

theorem call_eq_error (h : w.call payload s = .error failure t) :
    ∃ log, t = { s.calling w payload with log } := by
  obtain ⟨-, called⟩ | ⟨-, log, called⟩ := w.call_cases payload s
  · rw [called] at h
    cases h
    exact ⟨s.log, rfl⟩
  · rw [called] at h
    exact ⟨log, delivery_eq_error h⟩

theorem call_of_cancelled (w : Webhook) (payload : Payload)
    (h : (s.endpoint w.url).outcome.fault = some .cancelled) :
    w.call payload s = .error .cancelled (s.calling w payload) := by
  obtain ⟨-, called⟩ | ⟨uncancelled, -⟩ := w.call_cases payload s
  · exact called
  · exact absurd h uncancelled

end Webhook

def Service.nextUuid (s : Service) : String :=
  deliveryUuid (s.uuids + 1)

def Service.counting (s : Service) (d : Delivery) : Service :=
  { s with log := s.log ++ [⟨.debug, d.logLine⟩], metrics := s.metrics.observing d }

def Service.recording (s : Service) (d : Delivery) (store : Store) : Service :=
  { s.counting d with store, uuids := s.uuids + 1 }

inductive Webhook.Stops (payload : Payload) (w : Webhook) (s : Service) :
    Failure → List Delivery → Prop
  | call {failure : Failure} {called : Service} (h : w.call payload s = .error failure called) :
      Stops payload w s failure []
  | record {d : Delivery} {failure : Failure} {called : Service}
      (h : w.call payload s = .ok d called)
      (hd : called.store.withDelivery called.nextUuid d = .error failure) :
      Stops payload w s failure [d]

inductive DeliveredAll (payload : Payload) :
    List Webhook → List Delivery → Service → Service → Prop
  | nil (s : Service) : DeliveredAll payload [] [] s s
  | cons {w : Webhook} {d : Delivery} {rest : List Webhook} {more : List Delivery}
      {s called t : Service} {store : Store} (h : w.call payload s = .ok d called)
      (hd : called.store.withDelivery called.nextUuid d = .ok store)
      (others : DeliveredAll payload rest more (called.recording d store) t) :
      DeliveredAll payload (w :: rest) (d :: more) s t

section Deliver

variable {w : Webhook} {payload : Payload} {s called : Service} {d : Delivery} {failure : Failure}

theorem recordDelivery_apply (d : Delivery) (s : Service) :
    recordDelivery d s = match s.store.withDelivery s.nextUuid d with
      | .ok store => .ok s.nextUuid { s with store, uuids := s.uuids + 1 }
      | .error failure => .error failure { s with uuids := s.uuids + 1 } := by
  unfold recordDelivery
  rw [get_bind, set_bind, change_bind]
  dsimp only [Service.nextUuid]
  cases s.store.withDelivery (deliveryUuid (s.uuids + 1)) d <;> rfl

theorem deliver_of_call_ok (h : w.call payload s = .ok d called) :
    deliver payload w s = match called.store.withDelivery called.nextUuid d with
      | .ok store => .ok d (called.recording d store)
      | .error failure => .error failure { called.counting d with uuids := called.uuids + 1 } := by
  obtain ⟨tells, -⟩ := Webhook.call_eq_ok h
  unfold deliver
  rw [bind_ok h, log_bind, bind_ok (observeDelivery_apply tells.measurable _), bind_apply,
    recordDelivery_apply]
  dsimp only [Service.nextUuid, Service.recording, Service.counting]
  cases called.store.withDelivery (deliveryUuid (called.uuids + 1)) d <;> rfl

theorem deliver_of_call_error (h : w.call payload s = .error failure called) :
    deliver payload w s = .error failure called := by
  unfold deliver
  rw [bind_apply, h]

theorem stops_of_cancelled (w : Webhook) (payload : Payload)
    (h : (s.endpoint w.url).outcome.fault = some .cancelled) :
    w.Stops payload s .cancelled [] :=
  .call (w.call_of_cancelled payload h)

theorem deliver_of_stops {observed : List Delivery} (h : w.Stops payload s failure observed) :
    ∃ t, deliver payload w s = .error failure t ∧
      t.calls = s.calls ++ [w.request payload s.settings.timeoutSeconds] ∧ t.store = s.store ∧
      t.metrics = observed.foldl Metrics.observing s.metrics := by
  cases h with
  | call h =>
    obtain ⟨log, rfl⟩ := Webhook.call_eq_error h
    exact ⟨_, deliver_of_call_error h, rfl, rfl, rfl⟩
  | record h hd =>
    have told := deliver_of_call_ok h
    obtain ⟨-, log, rfl⟩ := Webhook.call_eq_ok h
    rw [hd] at told
    exact ⟨_, told, rfl, rfl, rfl⟩

end Deliver

section DeliverAll

variable {payload : Payload} {webhooks before : List Webhook} {deliveries : List Delivery}
  {s t : Service} {failure : Failure}

theorem deliverAll_append (h : DeliveredAll payload before deliveries s t) (after : List Webhook) :
    deliverAll payload (before ++ after) s = match deliverAll payload after t with
      | .ok more u => .ok (deliveries ++ more) u
      | .error failure u => .error failure u := by
  induction h with
  | nil s =>
    rw [List.nil_append]
    cases deliverAll payload after s <;> rfl
  | @cons w d rest more s called t store h hd _ ih =>
    have first := deliver_of_call_ok h
    rw [hd] at first
    rw [List.cons_append, deliverAll, bind_ok first, bind_apply, ih]
    cases deliverAll payload after t <;> rfl

theorem deliverAll_of_delivered (h : DeliveredAll payload webhooks deliveries s t) :
    deliverAll payload webhooks s = .ok deliveries t := by
  have all := deliverAll_append h []
  rw [List.append_nil, deliverAll] at all
  rw [all]
  exact congrArg (EStateM.Result.ok · t) (List.append_nil deliveries)

theorem deliverAll_of_stops {w : Webhook} {observed : List Delivery}
    (h : DeliveredAll payload before deliveries s t) (stops : w.Stops payload t failure observed)
    (after : List Webhook) :
    ∃ u, deliverAll payload (before ++ w :: after) s = .error failure u ∧
      u.calls = t.calls ++ [w.request payload t.settings.timeoutSeconds] ∧ u.store = t.store ∧
      u.metrics = observed.foldl Metrics.observing t.metrics := by
  obtain ⟨u, hu, calls, store, metrics⟩ := deliver_of_stops stops
  refine ⟨u, ?_, calls, store, metrics⟩
  rw [deliverAll_append h, deliverAll, bind_apply, hu]

theorem delivered_or_stops (payload : Payload) (webhooks : List Webhook) (s : Service) :
    (∃ deliveries t, DeliveredAll payload webhooks deliveries s t) ∨
      ∃ before w after deliveries t failure observed, webhooks = before ++ w :: after ∧
        DeliveredAll payload before deliveries s t ∧ w.Stops payload t failure observed := by
  induction webhooks generalizing s with
  | nil => exact .inl ⟨[], s, .nil s⟩
  | cons w rest ih =>
    cases h : w.call payload s with
    | error failure called =>
      exact .inr ⟨[], w, rest, [], s, failure, [], rfl, .nil s, .call h⟩
    | ok d called =>
      cases hd : called.store.withDelivery called.nextUuid d with
      | error failure => exact .inr ⟨[], w, rest, [], s, failure, [d], rfl, .nil s, .record h hd⟩
      | ok store =>
        rcases ih (called.recording d store) with
          ⟨more, t, all⟩ | ⟨before, v, after, more, t, failure, observed, rfl, all, stops⟩
        · exact .inl ⟨d :: more, t, .cons h hd all⟩
        · exact .inr ⟨w :: before, v, after, d :: more, t, failure, observed, rfl,
            .cons h hd all, stops⟩

theorem exists_delivered (payload : Payload) (webhooks : List Webhook) (s : Service) :
    ∃ before deliveries t, before <+: webhooks ∧ DeliveredAll payload before deliveries s t ∧
      ((deliverAll payload webhooks).after s).store = t.store := by
  obtain ⟨deliveries, t, all⟩ | ⟨before, w, rest, deliveries, t, failure, observed, rfl, all,
    stops⟩ :=
    delivered_or_stops payload webhooks s
  · exact ⟨webhooks, deliveries, t, List.prefix_rfl, all,
      by rw [after_ok (deliverAll_of_delivered all)]⟩
  · obtain ⟨u, stopped, -, store, -⟩ := deliverAll_of_stops all stops rest
    exact ⟨before, deliveries, t, List.prefix_append before _, all, by rw [after, stopped, store]⟩

end DeliverAll

end AnalysisWebhooks
