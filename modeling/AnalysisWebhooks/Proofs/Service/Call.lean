import AnalysisWebhooks.Proofs.Service.Alike
import AnalysisWebhooks.Proofs.Store.Retention
import AnalysisWebhooks.Service.Dispatch

namespace AnalysisWebhooks

open AnalysisWebhooks.Action

def Network.Quiet (n : Network) : Prop :=
  ∀ earlier url, (n.endpoint earlier url).outcome.fault ≠ some .cancelled

theorem Network.quiet_default : ({} : Network).Quiet := by
  intro earlier url h
  cases h

structure Sends (sent : String → Prop) (s t : Service) : Prop where
  settings : t.settings = s.settings
  network : t.network = s.network
  clock : t.clock = s.clock
  calls : ∃ new, t.calls = s.calls ++ new ∧ ∀ call ∈ new, sent call.body
  steps : ∃ steps, DeliveryStep.run s.settings.retentionCount s.store steps = .ok t.store

namespace Sends

variable {sent told : String → Prop} {s t u : Service}

theorem of_store_eq (settings : t.settings = s.settings) (network : t.network = s.network)
    (clock : t.clock = s.clock) (calls : t.calls = s.calls) (store : t.store = s.store) :
    Sends sent s t where
  settings := settings
  network := network
  clock := clock
  calls := ⟨[], by simp [calls], by simp⟩
  steps := ⟨[], by rw [store, DeliveryStep.run]⟩

theorem refl (s : Service) : Sends sent s s :=
  of_store_eq rfl rfl rfl rfl rfl

theorem trans (hst : Sends sent s t) (htu : Sends sent t u) : Sends sent s u where
  settings := htu.settings.trans hst.settings
  network := htu.network.trans hst.network
  clock := htu.clock.trans hst.clock
  calls := by
    obtain ⟨first, hfirst, sentFirst⟩ := hst.calls
    obtain ⟨second, hsecond, sentSecond⟩ := htu.calls
    refine ⟨first ++ second, by rw [hsecond, hfirst, List.append_assoc], fun call h => ?_⟩
    rcases List.mem_append.1 h with h | h
    · exact sentFirst call h
    · exact sentSecond call h
  steps := by
    obtain ⟨first, hfirst⟩ := hst.steps
    obtain ⟨second, hsecond⟩ := htu.steps
    rw [hst.settings] at hsecond
    exact ⟨first ++ second, DeliveryStep.run_append.2 ⟨t.store, hfirst, hsecond⟩⟩

theorem mono (h : ∀ body, sent body → told body) (hst : Sends sent s t) : Sends told s t where
  settings := hst.settings
  network := hst.network
  clock := hst.clock
  calls := by
    obtain ⟨new, hnew, hsent⟩ := hst.calls
    exact ⟨new, hnew, fun call hcall => h _ (hsent call hcall)⟩
  steps := hst.steps

theorem step {step : DeliveryStep} (settings : t.settings = s.settings)
    (network : t.network = s.network) (clock : t.clock = s.clock) (calls : t.calls = s.calls)
    (applied : step.apply s.settings.retentionCount s.store = .ok t.store) : Sends sent s t where
  settings := settings
  network := network
  clock := clock
  calls := ⟨[], by simp [calls], by simp⟩
  steps := ⟨[step], bind_eq_ok.2 ⟨t.store, applied, rfl⟩⟩

theorem calls_le (h : Sends sent s t) : s.calls.length ≤ t.calls.length := by
  obtain ⟨new, hnew, -⟩ := h.calls
  simp [hnew]

theorem store (h : Sends sent s t) :
    t.store = { s.store with deliveries := t.store.deliveries } := by
  obtain ⟨steps, hsteps⟩ := h.steps
  exact DeliveryStep.run_frame hsteps

theorem quiet (h : Sends sent s t) (hs : s.network.Quiet) : t.network.Quiet := by
  rw [h.network]
  exact hs

end Sends

section Sends

variable {α β : Type} {x : Action α} {f : α → Action β} {sent : String → Prop}

theorem sends_bind (hx : Moves (Sends sent) x) (hf : ∀ a, Moves (Sends sent) (f a)) :
    Moves (Sends sent) (x >>= f) :=
  moves_bind Sends.trans hx hf

theorem sends_log (level : LogLevel) (text : String) : Moves (Sends sent) (log level text) :=
  fun _ => .of_store_eq rfl rfl rfl rfl rfl

theorem sends_measure (change : Metrics → Metrics) : Moves (Sends sent) (measure change) :=
  fun _ => .of_store_eq rfl rfl rfl rfl rfl

end Sends

def Service.calling (s : Service) (w : Webhook) (payload : Payload) : Service :=
  { s with
    calls := s.calls ++ [w.request payload s.settings.timeoutSeconds]
    timer := (s.endpoint w.url).outcome.timer }

namespace Webhook

def delivery (w : Webhook) (payload : Payload) (s : Service) : Action Delivery :=
  let outcome := (s.endpoint w.url).outcome
  match milliseconds (outcome.timer - s.timer) with
  | .error failure => throw failure
  | .ok duration =>
    return {
      webhook := w
      payload
      time := s.clock
      httpStatus := outcome.status
      durationMs := some duration
      error := outcome.fault.map CallFault.description }

def conclude (w : Webhook) (payload : Payload) (s : Service) : Action Delivery :=
  match (s.endpoint w.url).outcome.fault with
  | some .cancelled => throw .cancelled
  | some _ => do
    Action.log .debug ("Webhook call to " ++ w.url ++ " failed")
    w.delivery payload s
  | none => w.delivery payload s

variable (w : Webhook) (payload : Payload) {s t : Service}

theorem call_apply (s : Service) :
    w.call payload s = w.conclude payload s (s.calling w payload) := by
  unfold call
  rw [get_bind, set_bind]
  unfold conclude delivery Service.calling
  dsimp only
  generalize (s.endpoint w.url).outcome = outcome
  obtain ⟨status, timer, fault⟩ := outcome
  cases fault with
  | none => rfl
  | some fault => cases fault <;> rfl

theorem isOrdinary_of_milliseconds {seconds : Float} {failure : Failure}
    (h : milliseconds seconds = .error failure) : failure.isOrdinary = true := by
  unfold milliseconds at h
  split at h <;> cases h <;> rfl

theorem delivery_cases (s : Service) :
    (∃ d ms, milliseconds ((s.endpoint w.url).outcome.timer - s.timer) = .ok ms ∧
      d.durationMs = some ms ∧ w.delivery payload s = pure d) ∨
    ∃ failure, milliseconds ((s.endpoint w.url).outcome.timer - s.timer) = .error failure ∧
      w.delivery payload s = throw failure := by
  unfold delivery
  dsimp only
  split
  · rename_i failure endless
    exact .inr ⟨failure, endless, rfl⟩
  · rename_i ms finite
    exact .inl ⟨_, ms, finite, rfl, rfl⟩

theorem call_cases (s : Service) :
    ((s.endpoint w.url).outcome.fault = some .cancelled ∧
      w.call payload s = .error .cancelled (s.calling w payload)) ∨
    ((s.endpoint w.url).outcome.fault ≠ some .cancelled ∧
      ∃ log, w.call payload s = w.delivery payload s { s.calling w payload with log }) := by
  rw [call_apply, conclude]
  cases (s.endpoint w.url).outcome.fault with
  | none => exact .inr ⟨nofun, s.log, rfl⟩
  | some fault =>
    cases fault with
    | cancelled => exact .inl ⟨rfl, rfl⟩
    | timeout => exact .inr ⟨nofun, _, rfl⟩
    | error kind message => exact .inr ⟨nofun, _, rfl⟩

theorem isOrdinary_of_delivery {failure : Failure} {u : Service}
    (h : w.delivery payload s t = .error failure u) : failure.isOrdinary = true := by
  obtain ⟨d, -, -, -, hd⟩ | ⟨other, endless, hd⟩ := w.delivery_cases payload s
  · rw [hd] at h
    cases h
  · rw [hd] at h
    cases h
    exact isOrdinary_of_milliseconds endless

theorem sends_delivery {sent : String → Prop} (s : Service) :
    Moves (Sends sent) (w.delivery payload s) := by
  obtain ⟨d, -, -, -, h⟩ | ⟨failure, -, h⟩ := w.delivery_cases payload s
  · rw [h]
    exact moves_pure Sends.refl d
  · rw [h]
    exact moves_throw Sends.refl failure

theorem sends_conclude {sent : String → Prop} (s : Service) :
    Moves (Sends sent) (w.conclude payload s) := by
  unfold conclude
  split
  · exact moves_throw Sends.refl _
  · exact sends_bind (sends_log _ _) fun _ => w.sends_delivery payload s
  · exact w.sends_delivery payload s

theorem sends_calling (s : Service) : Sends (· = payload.body) s (s.calling w payload) where
  settings := rfl
  network := rfl
  clock := rfl
  calls := ⟨_, rfl, by simp [request]⟩
  steps := ⟨[], rfl⟩

theorem sends_call : Moves (Sends (· = payload.body)) (w.call payload) := by
  intro s
  rw [after, call_apply]
  exact (w.sends_calling payload s).trans (w.sends_conclude payload s _)

theorem contained_call : Contained (·.network.Quiet) (w.call payload) := by
  intro s failure t hs h
  obtain ⟨cancelled, -⟩ | ⟨-, log, called⟩ := w.call_cases payload s
  · exact absurd cancelled (hs _ w.url)
  · rw [called] at h
    exact w.isOrdinary_of_delivery payload h

theorem blind_delivery (s : Service) : Blind (w.delivery payload s) := by
  obtain ⟨d, -, -, -, h⟩ | ⟨failure, -, h⟩ := w.delivery_cases payload s
  · rw [h]
    exact blind_pure d
  · rw [h]
    exact blind_throw failure

theorem blind_conclude (s : Service) : Blind (w.conclude payload s) := by
  unfold conclude
  split
  · exact blind_throw _
  · exact blind_bind (blind_log _ _) fun _ => w.blind_delivery payload s
  · exact w.blind_delivery payload s

theorem blind_call : Blind (w.call payload) := by
  intro s t hst
  rw [call_apply, call_apply, Service.eq_of_bare hst]
  exact w.blind_conclude payload s _ _ rfl

end Webhook

end AnalysisWebhooks
