import AnalysisWebhooks.Proofs.Service.Announcing
import AnalysisWebhooks.Proofs.Service.Consistency

namespace AnalysisWebhooks

open AnalysisWebhooks.Action

namespace Tally

variable {κ : Type} [DecidableEq κ]

theorem count_add_self (t : Tally κ) (key : κ) (n : Nat) :
    (t.add key n).count key = t.count key + n := by
  induction t with
  | nil => simp [add, count]
  | cons e rest ih =>
    obtain ⟨k, c⟩ := e
    rw [add]
    split
    · rename_i h
      simp [count, h]
    · rename_i h
      have hk : (key == k) = false := by simpa using fun h' => h h'.symm
      simpa [count, List.lookup_cons, hk] using ih

theorem count_add_other (t : Tally κ) {key other : κ} (n : Nat) (h : other ≠ key) :
    (t.add key n).count other = t.count other := by
  induction t with
  | nil =>
    have ho : (other == key) = false := by simpa using h
    simp [add, count, List.lookup_cons, ho]
  | cons e rest ih =>
    obtain ⟨k, c⟩ := e
    rw [add]
    split
    · rename_i hk
      have ho : (other == k) = false := by
        subst hk
        simpa using h
      simp [count, List.lookup_cons, ho]
    · by_cases ho : other = k
      · simp [count, ho]
      · have ho' : (other == k) = false := by simpa using ho
        simpa [count, List.lookup_cons, ho'] using ih

theorem total_add (t : Tally κ) (key : κ) (n : Nat) : (t.add key n).total = t.total + n := by
  induction t with
  | nil => simp [add, total]
  | cons e rest ih =>
    obtain ⟨k, c⟩ := e
    rw [add]
    split
    · simp [total]
      omega
    · simp only [total]
      omega

theorem count_add (t : Tally κ) (key other : κ) (n : Nat) :
    (t.add key n).count other = t.count other + if other = key then n else 0 := by
  split
  · rename_i same
    rw [same, count_add_self]
  · rename_i differs
    rw [count_add_other t n differs, Nat.add_zero]

end Tally

namespace Metrics

def observed (m : Metrics) : Nat :=
  m.deliveries.count true + m.deliveries.count false

def decided (m : Metrics) (trigger : Trigger) : Nat :=
  ([.disabled, .noWebhooks, .dispatched, .error].map fun decision =>
    m.decisions.count (trigger, decision)).sum

end Metrics

namespace Network

def timerAfter (n : Network) : (earlier : Nat) → (timer : Float) → List Call → Float
  | _, timer, [] => timer
  | earlier, _, call :: rest =>
    n.timerAfter (earlier + 1) (n.endpoint earlier call.url).outcome.timer rest

def Timely (n : Network) : (earlier : Nat) → (timer : Float) → List Call → Prop
  | _, _, [] => True
  | earlier, timer, call :: rest =>
    (∃ ms, milliseconds ((n.endpoint earlier call.url).outcome.timer - timer) = .ok ms) ∧
      n.Timely (earlier + 1) (n.endpoint earlier call.url).outcome.timer rest

variable {n : Network} {earlier : Nat} {timer : Float} {calls more : List Call}

theorem timerAfter_append : n.timerAfter earlier timer (calls ++ more) =
    n.timerAfter (earlier + calls.length) (n.timerAfter earlier timer calls) more := by
  induction calls generalizing earlier timer with
  | nil => rfl
  | cons call rest ih =>
    rw [List.cons_append, timerAfter, timerAfter, ih, List.length_cons, Nat.add_right_comm,
      Nat.add_assoc]

theorem timely_append : n.Timely earlier timer (calls ++ more) ↔ n.Timely earlier timer calls ∧
    n.Timely (earlier + calls.length) (n.timerAfter earlier timer calls) more := by
  induction calls generalizing earlier timer with
  | nil => simp [Timely, timerAfter]
  | cons call rest ih =>
    rw [List.cons_append, Timely, Timely, ih, and_assoc, timerAfter, List.length_cons,
      Nat.add_right_comm, Nat.add_assoc]

end Network

structure Observes (s t : Service) : Prop where
  network : t.network = s.network
  calls : ∃ new, t.calls = s.calls ++ new ∧
    t.timer = s.network.timerAfter s.calls.length s.timer new ∧
    (s.network.Timely s.calls.length s.timer new →
      t.metrics.observed = s.metrics.observed + new.length ∧
      t.metrics.durations.length = s.metrics.durations.length + new.length)

namespace Observes

variable {s t u : Service}

theorem of_same (network : t.network = s.network) (calls : t.calls = s.calls)
    (timer : t.timer = s.timer) (deliveries : t.metrics.deliveries = s.metrics.deliveries)
    (durations : t.metrics.durations = s.metrics.durations) : Observes s t := by
  refine ⟨network, [], by rw [calls, List.append_nil], timer, fun _ => ⟨?_, ?_⟩⟩
  · rw [Metrics.observed, deliveries]
    rfl
  · rw [durations]
    rfl

theorem refl (s : Service) : Observes s s :=
  of_same rfl rfl rfl rfl rfl

theorem trans (hst : Observes s t) (htu : Observes t u) : Observes s u := by
  obtain ⟨first, hfirst, timerFirst, countedFirst⟩ := hst.calls
  obtain ⟨second, hsecond, timerSecond, countedSecond⟩ := htu.calls
  rw [hst.network, hfirst, List.length_append, timerFirst] at timerSecond countedSecond
  refine ⟨htu.network.trans hst.network, first ++ second, ?_, ?_, fun timely => ?_⟩
  · rw [hsecond, hfirst, List.append_assoc]
  · rw [timerSecond, Network.timerAfter_append]
  · obtain ⟨timelyFirst, timelySecond⟩ := Network.timely_append.1 timely
    have one := countedFirst timelyFirst
    have two := countedSecond timelySecond
    rw [List.length_append]
    omega

end Observes

structure Delivers (s t : Service) : Prop extends Observes s t where
  pruned : t.metrics.pruned = s.metrics.pruned
  decisions : t.metrics.decisions = s.metrics.decisions
  errors : t.metrics.errors = s.metrics.errors
  taskErrors : t.metrics.taskErrors = s.metrics.taskErrors

namespace Delivers

variable {s t u : Service}

theorem refl (s : Service) : Delivers s s :=
  ⟨.refl s, rfl, rfl, rfl, rfl⟩

theorem trans (hst : Delivers s t) (htu : Delivers t u) : Delivers s u where
  toObserves := hst.toObserves.trans htu.toObserves
  pruned := htu.pruned.trans hst.pruned
  decisions := htu.decisions.trans hst.decisions
  errors := htu.errors.trans hst.errors
  taskErrors := htu.taskErrors.trans hst.taskErrors

end Delivers

def Keeps {α : Type} (r : Service → Service → Prop) (x : Action α) : Prop :=
  ∀ s, (∀ t, x s ≠ .error .cancelled t) → r s (x.after s)

theorem keeps_bind {α β : Type} {r : Service → Service → Prop} {x : Action α} {f : α → Action β}
    (trans : ∀ {s t u}, r s t → r t u → r s u) (hx : Keeps r x) (hf : ∀ a, Keeps r (f a)) :
    Keeps r (x >>= f) := by
  intro s uncancelled
  have first : r s (x.after s) :=
    hx s fun t cancelled => uncancelled t (by rw [bind_apply, cancelled])
  rw [after] at first
  rw [after_bind]
  cases h : x s with
  | ok a t =>
    rw [h] at first
    refine trans first (hf a t fun u cancelled => uncancelled u ?_)
    rw [bind_ok h, cancelled]
  | error failure t =>
    rw [h] at first
    exact first

theorem keeps_pure {α : Type} {r : Service → Service → Prop} (refl : ∀ s, r s s) (a : α) :
    Keeps r (pure a) :=
  fun s _ => refl s

namespace Webhook

variable {w : Webhook} {payload : Payload} {s t u : Service} {d : Delivery} {failure : Failure}

theorem milliseconds_of_delivery (h : w.delivery payload s t = .error failure u) :
    milliseconds ((s.endpoint w.url).outcome.timer - s.timer) = .error failure := by
  obtain ⟨d, -, -, -, hd⟩ | ⟨other, endless, hd⟩ := w.delivery_cases payload s
  · rw [hd] at h
    cases h
  · rw [hd] at h
    cases h
    exact endless

theorem cancelled_or_endless (h : w.call payload s = .error failure t) : failure = .cancelled ∨
    milliseconds ((s.endpoint w.url).outcome.timer - s.timer) = .error failure := by
  obtain ⟨-, called⟩ | ⟨-, log, called⟩ := w.call_cases payload s
  · rw [called] at h
    cases h
    exact .inl rfl
  · rw [called] at h
    exact .inr (milliseconds_of_delivery h)

end Webhook

theorem observed_observing (m : Metrics) {d : Delivery} {ms : Int} (h : d.durationMs = some ms) :
    (m.observing d).observed = m.observed + 1 ∧
      (m.observing d).durations.length = m.durations.length + 1 := by
  rw [Metrics.observing, h]
  constructor
  · show (m.deliveries.add d.success 1).count true + (m.deliveries.add d.success 1).count false = _
    rw [Tally.count_add, Tally.count_add, Metrics.observed]
    cases d.success <;> simp <;> omega
  · exact List.length_append

theorem delivers_of_call {w : Webhook} {payload : Payload} {s called t : Service} {d : Delivery}
    (h : w.call payload s = .ok d called) (network : t.network = called.network)
    (calls : t.calls = called.calls) (timer : t.timer = called.timer)
    (metrics : t.metrics = called.metrics.observing d) : Delivers s t := by
  obtain ⟨ms, hms⟩ := Option.ne_none_iff_exists'.1 (Webhook.durationMs_of_call h)
  obtain ⟨-, log, rfl⟩ := Webhook.call_eq_ok h
  have counted := observed_observing s.metrics hms
  have rest : (s.metrics.observing d).pruned = s.metrics.pruned ∧
      (s.metrics.observing d).decisions = s.metrics.decisions ∧
      (s.metrics.observing d).errors = s.metrics.errors ∧
      (s.metrics.observing d).taskErrors = s.metrics.taskErrors := by
    rw [Metrics.observing, hms]
    exact ⟨rfl, rfl, rfl, rfl⟩
  obtain ⟨pruned, decisions, errors, taskErrors⟩ := rest
  refine ⟨⟨network, [w.request payload s.settings.timeoutSeconds], calls, timer, fun _ => ?_⟩,
    ?_, ?_, ?_, ?_⟩
  all_goals rw [metrics]
  · exact counted
  · exact pruned
  · exact decisions
  · exact errors
  · exact taskErrors

theorem delivers_deliver (payload : Payload) (w : Webhook) :
    Keeps Delivers (deliver payload w) := by
  intro s uncancelled
  rw [after]
  cases h : w.call payload s with
  | error failure called =>
    have stopped := deliver_of_call_error h
    rw [stopped] at uncancelled ⊢
    obtain ⟨log, rfl⟩ := Webhook.call_eq_error h
    rcases Webhook.cancelled_or_endless h with rfl | endless
    · exact absurd rfl (uncancelled _)
    · refine ⟨⟨rfl, [w.request payload s.settings.timeoutSeconds], rfl, rfl, ?_⟩,
        rfl, rfl, rfl, rfl⟩
      rintro ⟨⟨ms, finite⟩, -⟩
      have both := endless.symm.trans finite
      cases both
  | ok d called =>
    rw [deliver_of_call_ok h]
    cases called.store.withDelivery called.nextUuid d with
    | error failure => exact delivers_of_call h rfl rfl rfl rfl
    | ok store => exact delivers_of_call h rfl rfl rfl rfl

theorem delivers_deliverAll (payload : Payload) (webhooks : List Webhook) :
    Keeps Delivers (deliverAll payload webhooks) := by
  induction webhooks with
  | nil => exact keeps_pure Delivers.refl []
  | cons w rest ih =>
    exact keeps_bind Delivers.trans (delivers_deliver payload w) fun d =>
      keeps_bind Delivers.trans ih fun more => keeps_pure Delivers.refl (d :: more)

structure Entry where
  rows : Nat := 0
  accepted : Nat := 0
  failed : Nat := 0
  issueFailed : Nat := 0
  told : Nat := 0

instance : Add Entry where
  add e f := ⟨e.rows + f.rows, e.accepted + f.accepted, e.failed + f.failed,
    e.issueFailed + f.issueFailed, e.told + f.told⟩

@[simp]
theorem Entry.mk_add_mk (rows accepted failed issueFailed told : Nat)
    (rows' accepted' failed' issueFailed' told' : Nat) :
    Entry.mk rows accepted failed issueFailed told +
        ⟨rows', accepted', failed', issueFailed', told'⟩ =
      ⟨rows + rows', accepted + accepted', failed + failed', issueFailed + issueFailed',
        told + told'⟩ := rfl

structure Metrics.Judges (e : Entry) (m n : Metrics) : Prop where
  accepted : n.decided .analysis = m.decided .analysis + e.accepted
  failed : n.decisions.count (.analysis, .error) =
    m.decisions.count (.analysis, .error) + e.failed
  contained : n.errors.count .analysisWebhooks = m.errors.count .analysisWebhooks + e.failed
  tasks : n.taskErrors.total = m.taskErrors.total + e.failed
  issueFailed : n.decisions.count (.issue, .error) =
    m.decisions.count (.issue, .error) + e.issueFailed
  issueContained : n.errors.count .issueWebhooks =
    m.errors.count .issueWebhooks + e.issueFailed
  told : n.decisions.count (.issue, .dispatched) =
    m.decisions.count (.issue, .dispatched) + e.told

namespace Metrics.Judges

variable {e f : Entry} {m n k : Metrics}

theorem of_same {rows : Nat} (decisions : n.decisions = m.decisions) (errors : n.errors = m.errors)
    (taskErrors : n.taskErrors = m.taskErrors) : m.Judges { rows := rows } n := by
  constructor <;> simp [decided, decisions, errors, taskErrors]

theorem trans (hmn : m.Judges e n) (hnk : n.Judges f k) : m.Judges (e + f) k where
  accepted := by rw [hnk.accepted, hmn.accepted, Nat.add_assoc]; rfl
  failed := by rw [hnk.failed, hmn.failed, Nat.add_assoc]; rfl
  contained := by rw [hnk.contained, hmn.contained, Nat.add_assoc]; rfl
  tasks := by rw [hnk.tasks, hmn.tasks, Nat.add_assoc]; rfl
  issueFailed := by rw [hnk.issueFailed, hmn.issueFailed, Nat.add_assoc]; rfl
  issueContained := by rw [hnk.issueContained, hmn.issueContained, Nat.add_assoc]; rfl
  told := by rw [hnk.told, hmn.told, Nat.add_assoc]; rfl

end Metrics.Judges

section Judges

variable (m : Metrics)

theorem judges_request (path : String) : m.Judges {} (m.countRequest path) :=
  .of_same rfl rfl rfl

theorem judges_dispatched : m.Judges { accepted := 1 } (m.countDecision .analysis .dispatched) := by
  constructor <;> simp [Metrics.decided, Metrics.countDecision, Tally.count_add]
  omega

theorem judges_disabled : m.Judges { accepted := 1 } (m.countDecision .analysis .disabled) := by
  constructor <;> simp [Metrics.decided, Metrics.countDecision, Tally.count_add]
  omega

theorem judges_failed (task : String) : m.Judges { accepted := 1, failed := 1 }
    (((m.countError .analysisWebhooks).countDecision .analysis .error).countTaskError task) := by
  constructor <;> simp [Metrics.decided, Metrics.countDecision, Metrics.countError,
    Metrics.countTaskError, Tally.count_add, Tally.total_add]
  omega

theorem judges_issueTold : m.Judges { told := 1 } (m.countDecision .issue .dispatched) := by
  constructor <;> simp [Metrics.decided, Metrics.countDecision, Tally.count_add]

theorem judges_issueFailed : m.Judges { issueFailed := 1 }
    ((m.countError .issueWebhooks).countDecision .issue .error) := by
  constructor <;> simp [Metrics.decided, Metrics.countDecision, Metrics.countError,
    Tally.count_add]

theorem judges_issueLookup : m.Judges {} (m.countError .issueLookup) := by
  constructor <;> simp [Metrics.decided, Metrics.countError, Tally.count_add]

theorem judges_issueSilent {decision : Decision} (failed : decision ≠ .error)
    (told : decision ≠ .dispatched) : m.Judges {} (m.countDecision .issue decision) := by
  constructor <;> simp [Metrics.decided, Metrics.countDecision, Tally.count_add, failed.symm,
    told.symm]

end Judges

structure Books (e : Entry) (s t : Service) : Prop extends Observes s t where
  rows : t.metrics.pruned + t.store.deliveries.length =
    s.metrics.pruned + s.store.deliveries.length + e.rows
  judged : s.metrics.Judges e t.metrics

namespace Books

variable {e f : Entry} {s t u : Service}

theorem trans (hst : Books e s t) (htu : Books f t u) : Books (e + f) s u where
  toObserves := hst.toObserves.trans htu.toObserves
  rows := by rw [htu.rows, hst.rows, Nat.add_assoc]; rfl
  judged := hst.judged.trans htu.judged

theorem judging {requests : Tally String} {decisions : Tally (Trigger × Decision)}
    {errors : Tally ErrorContext} {taskErrors : Tally String} {log : List LogLine}
    (judged : s.metrics.Judges e { s.metrics with
      requests := requests, decisions := decisions, errors := errors, taskErrors := taskErrors })
    (none : e.rows = 0) :
    Books e s { s with
      metrics := { s.metrics with
        requests := requests, decisions := decisions, errors := errors, taskErrors := taskErrors }
      log := log } where
  toObserves := .of_same rfl rfl rfl rfl rfl
  rows := by rw [none]; rfl
  judged := judged

theorem restored {store : Store} {log : List LogLine} (h : store.deliveries = s.store.deliveries) :
    Books {} s { s with store := store, log := log } where
  toObserves := .of_same rfl rfl rfl rfl rfl
  rows := by rw [h]; rfl
  judged := .of_same rfl rfl rfl

theorem refl (s : Service) : Books {} s s :=
  restored rfl

end Books

section Dispatch

theorem trimmed_length {s t : Store} {project : String} {retention : Int} {removed : Nat}
    (h : s.trimmed project retention = .ok (removed, t)) :
    removed + t.deliveries.length = s.deliveries.length := by
  obtain ⟨count, -, h⟩ := bind_eq_ok.1 h
  cases h
  exact Nat.sub_add_cancel (Store.purged_sublist s project count).length_le

theorem books_purge (project : String) (s : Service) : Books {} s ((purge project).after s) := by
  unfold purge
  rw [after_get_bind, after_bind, ask_apply]
  cases h : s.store.trimmed project s.settings.retentionCount with
  | error failure => exact .refl s
  | ok result =>
    obtain ⟨removed, store⟩ := result
    have counts := trimmed_length h
    have trimmed (log : List LogLine) : Books {} s { s with
        store, log, metrics := s.metrics.pruning removed } := by
      refine ⟨.of_same rfl rfl rfl rfl rfl, ?_, .of_same rfl rfl rfl⟩
      show s.metrics.pruned + removed + store.deliveries.length = _
      rw [Nat.add_assoc, counts]
      rfl
    dsimp only
    rw [after_set_bind]
    split
    · exact trimmed _
    · exact trimmed _

theorem Delivers.books {s t : Service} {rows : List (DeliveryRow String String)}
    (h : Delivers s t) (store : t.store = s.store.addingDeliveries rows) :
    Books { rows := rows.length } s t where
  toObserves := h.toObserves
  rows := by
    rw [h.pruned, store, Store.addingDeliveries, List.length_append, Nat.add_assoc]
  judged := .of_same h.decisions h.errors h.taskErrors

theorem books_deliverAll {payload : Payload} {webhooks : List Webhook} {s : Service}
    (uncancelled : ∀ t, deliverAll payload webhooks s ≠ .error .cancelled t) :
    Books { rows := (rowsOfCalls payload webhooks s).length } s
      ((deliverAll payload webhooks).after s) := by
  obtain ⟨rows, added, -, -⟩ := exists_appends_deliverAll 0 payload webhooks s
  have same : rowsOfCalls payload webhooks s = rows := by
    rw [rowsOfCalls, added, Store.addingDeliveries, List.drop_left]
  rw [same]
  exact (delivers_deliverAll payload webhooks s uncancelled).books added

theorem Notice.books_dispatch (n : Notice) {s : Service}
    (uncancelled : ∀ t, dispatch n.configuration n.subject (makePayload n.analysis) s ≠
      .error .cancelled t) :
    Books { rows := (n.rows s).length } s
      ((dispatch n.configuration n.subject (makePayload n.analysis)).after s) := by
  revert uncancelled
  unfold dispatch rows
  cases n.configuration.webhooks n.subject with
  | nil =>
    intro _
    have none : rowsOfCalls (n.analysis.payload s.server s.clock) [] s = [] := List.drop_length
    rw [none, ite_self]
    exact .refl s
  | cons w rest =>
    intro uncancelled
    dsimp only
    rw [after_makePayload_bind]
    split
    case isFalse => exact .refl s
    rename_i linkable
    generalize hpayload : n.analysis.payload s.server s.clock = payload
    have all := @books_deliverAll payload (w :: rest) s
    dsimp only at uncancelled
    simp only [bind_ok (makePayload_apply linkable s), hpayload] at uncancelled
    rw [after] at all
    rw [after_bind]
    cases delivered : deliverAll payload (w :: rest) s with
    | error failure t =>
      rw [delivered] at all
      exact all fun u same => uncancelled u (by rw [bind_apply, delivered, same])
    | ok deliveries t =>
      rw [delivered] at all
      dsimp only at all ⊢
      rw [after_bind_pure]
      exact (all fun u same => by cases same).trans (books_purge n.subject.project t)

end Dispatch

end AnalysisWebhooks
