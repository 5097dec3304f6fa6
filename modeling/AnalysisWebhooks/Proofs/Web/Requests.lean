import AnalysisWebhooks.Proofs.Service.Recording
import AnalysisWebhooks.Proofs.Service.Tasks
import AnalysisWebhooks.Web.Handler

namespace AnalysisWebhooks

open AnalysisWebhooks.Action

structure Tends (s t : Service) : Prop where
  settings : t.settings = s.settings
  network : t.network = s.network
  clock : t.clock = s.clock
  store : t.store =
    { s.store with properties := t.store.properties, deliveries := t.store.deliveries }

namespace Tends

variable {s t u : Service}

theorem refl (s : Service) : Tends s s :=
  ⟨rfl, rfl, rfl, rfl⟩

theorem trans (hst : Tends s t) (htu : Tends t u) : Tends s u where
  settings := htu.settings.trans hst.settings
  network := htu.network.trans hst.network
  clock := htu.clock.trans hst.clock
  store := by
    rw [htu.store, hst.store]

end Tends

theorem Sends.tends {sent : String → Prop} {s t : Service} (h : Sends sent s t) : Tends s t where
  settings := h.settings
  network := h.network
  clock := h.clock
  store := by
    rw [h.store]

theorem moves_withBody {α : Type} {p : Service → Service → Prop} (refl : ∀ s, p s s)
    (title : String)
    (read : Json → Check α) (body : String) {go : α → Action Response} (h : ∀ a, Moves p (go a)) :
    Moves p (withBody title read body go) := by
  unfold withBody
  split
  · exact h _
  · exact moves_pure refl _

theorem withBody_of_read {α : Type} {title : String} {read : Json → Check α} {body : String} {a : α}
    (h : (readBody title read body).toOption = some a) (go : α → Action Response) :
    withBody title read body go = go a := by
  unfold withBody
  cases hbody : readBody title read body with
  | error refusal =>
    rw [hbody] at h
    cases h
  | ok told =>
    rw [hbody] at h
    cases h
    rfl

def Settles (s t : Service) : Prop :=
  t = { s with store := { s.store with properties := t.store.properties } }

namespace Settles

variable {s t u : Service}

theorem refl (s : Service) : Settles s s :=
  rfl

theorem trans (hst : Settles s t) (htu : Settles t u) : Settles s u := by
  rw [Settles] at hst htu ⊢
  rw [htu, hst]

theorem tends (h : Settles s t) : Tends s t := by
  rw [Settles] at h
  rw [h]
  exact ⟨rfl, rfl, rfl, rfl⟩

theorem deliveries (h : Settles s t) : t.store.deliveries = s.store.deliveries := by
  rw [h]

end Settles

section Settles

variable {α β : Type} {x : Action α} {f : α → Action β}

theorem settles_bind (hx : Moves Settles x) (hf : ∀ a, Moves Settles (f a)) :
    Moves Settles (x >>= f) :=
  moves_bind Settles.trans hx hf

theorem settles_change {operation : Store → Except Failure Store}
    (h : ∀ s t, operation s = .ok t → t = { s with properties := t.properties }) :
    Moves Settles (change operation) := by
  intro s
  rw [after, change_apply]
  cases ht : operation s.store with
  | error failure => exact .refl s
  | ok t =>
    have same := h _ _ ht
    rw [Settles]
    dsimp only
    rw [← same]

theorem settles_handleSet (setting : SetSetting) : Moves Settles (handleSet setting) := by
  refine moves_get_bind fun s => settles_bind (settles_change fun s t h => ?_) fun _ =>
    moves_pure Settles.refl _
  obtain ⟨_, -, h⟩ := bind_eq_ok.1 h
  obtain ⟨_, -, h⟩ := bind_eq_ok.1 h
  obtain ⟨_, -, h⟩ := bind_eq_ok.1 h
  obtain ⟨_, -, h⟩ := bind_eq_ok.1 h
  obtain ⟨_, -, h⟩ := bind_eq_ok.1 h
  cases h
  rfl

theorem settles_handleReset (setting : ResetSetting) : Moves Settles (handleReset setting) := by
  refine settles_bind (settles_change fun s t h => ?_) fun _ => moves_pure Settles.refl _
  obtain ⟨_, -, h⟩ := bind_eq_ok.1 h
  obtain ⟨_, -, h⟩ := bind_eq_ok.1 h
  cases h
  rfl

theorem after_handleDeliveries (query : String) (s : Service) :
    (handleDeliveries query).after s = s := by
  unfold handleDeliveries
  split
  · rfl
  · rw [after_bind, ask_apply]
    cases s.store.listDeliveries _ _ listLimit <;> rfl

theorem after_handleDelivery (query : String) (s : Service) :
    (handleDelivery query).after s = s := by
  unfold handleDelivery
  split
  · rfl
  · rename_i uuid _
    rw [after_bind, ask_apply]
    rcases s.store.delivery? uuid with failure | _ | row <;> rfl

theorem settles_handleDeliveries (query : String) : Moves Settles (handleDeliveries query) := by
  intro s
  rw [after_handleDeliveries]
  exact .refl s

theorem settles_handleDelivery (query : String) : Moves Settles (handleDelivery query) := by
  intro s
  rw [after_handleDelivery]
  exact .refl s

end Settles

section Tends

variable {α : Type} {x : Action α}

theorem tends_of_sends (h : Moves (Sends fun _ => True) x) : Moves Tends x :=
  fun s => (h s).tends

theorem tends_of_settles (h : Moves Settles x) : Moves Tends x :=
  fun s => (h s).tends

theorem sends_reactToIssues (context : ErrorContext) (what : String) {reaction : Action Nat}
    (h : Moves (Sends fun _ => True) reaction) :
    Moves (Sends fun _ => True) (reactToIssues context what reaction) :=
  sends_bind (sends_orElse h fun _ => sends_bind (sends_measure _) fun _ =>
    sends_bind (sends_log _ _) fun _ => moves_pure Sends.refl _) fun _ => moves_pure Sends.refl _

theorem sends_handleTransition (t : IssueTransition) :
    Moves (Sends fun _ => True) (handleTransition .webhooks t) :=
  moves_get_bind fun _ => sends_reactToIssues _ _ (sends_onTransition _ _ _)

theorem sends_handleTypeChange (t : IssueTypeChange) :
    Moves (Sends fun _ => True) (handleTypeChange .webhooks t) :=
  moves_get_bind fun _ => sends_reactToIssues _ _ (sends_onTypeChange _ _ _)

theorem tends_route {route : Route} (h : route ≠ .analysisFinished) (r : Request) :
    Moves Tends (route.handle .webhooks r) := by
  cases route with
  | status => exact moves_pure Tends.refl _
  | metrics => exact moves_get_bind fun _ => moves_pure Tends.refl _
  | analysisFinished => exact absurd rfl h
  | issueTransition =>
    exact moves_withBody Tends.refl _ _ _ fun t => tends_of_sends (sends_handleTransition t)
  | issueType =>
    exact moves_withBody Tends.refl _ _ _ fun t => tends_of_sends (sends_handleTypeChange t)
  | deliveries => exact tends_of_settles (settles_handleDeliveries _)
  | delivery => exact tends_of_settles (settles_handleDelivery _)
  | setSetting =>
    exact moves_withBody Tends.refl _ _ _ fun t => tends_of_settles (settles_handleSet t)
  | resetSetting =>
    exact moves_withBody Tends.refl _ _ _ fun t => tends_of_settles (settles_handleReset t)

end Tends

def Request.finished? (r : Request) : Option FinishedAnalysis :=
  if Route.ofPath? r.path = some .analysisFinished ∧ r.method = Route.analysisFinished.method then
    (readBody "AnalysisFinishedRequest" FinishedAnalysis.read r.body).toOption
  else none

def Request.recorded (r : Request) (s : Service) : Service :=
  match r.finished? with
  | some f => { s with store := f.left s.clock s.store }
  | none => s

theorem Request.store_recorded {r : Request} {s : Service} {f : FinishedAnalysis} {t : Store}
    (reports : r.finished? = some f) (accepted : f.recorded s.clock s.store = .ok t) :
    (r.recorded s).store = t := by
  rw [Request.recorded, reports]
  dsimp only
  rw [FinishedAnalysis.left, accepted]

theorem sends_handleFinished (f : FinishedAnalysis) (s : Service) :
    Sends (fun _ => True) { s with store := f.left s.clock s.store }
      ((handleFinished f).after s) := by
  rw [handleFinished, after_bind]
  have hrecord := f.after_record s
  rw [after] at hrecord
  cases h : f.record s with
  | error failure t =>
    rw [h] at hrecord
    rw [← hrecord]
    exact .refl t
  | ok a t =>
    rw [h] at hrecord
    rw [← hrecord]
    exact (sends_bind (sends_log _ _) fun _ =>
      sends_bind (sends_finish _ _) fun _ => moves_pure Sends.refl _) t

theorem tends_finishedRoute {r : Request} {s : Service}
    (hpath : Route.ofPath? r.path = some .analysisFinished)
    (hmethod : r.method = Route.analysisFinished.method) :
    Tends (r.recorded s) ((Route.analysisFinished.handle .webhooks r).after s) := by
  rw [Request.recorded, Request.finished?, if_pos ⟨hpath, hmethod⟩, Route.handle, withBody]
  cases readBody "AnalysisFinishedRequest" FinishedAnalysis.read r.body with
  | ok f => exact (sends_handleFinished f s).tends
  | error refusal => exact .refl s

def answer (r : Request) : Action Response :=
  match Route.ofPath? r.path with
  | none => return .refused (.notFound ("Requested URL " ++ r.path ++ " not found"))
  | some route =>
    if r.method = route.method then
      Action.orElse (route.handle .webhooks r) fun _ => pure (.refused .broken)
    else
      return .refused (.notAllowed
        ("Method " ++ r.method ++ " not allowed for URL " ++ r.path))

theorem after_answer {r : Request} {route : Route} (hpath : Route.ofPath? r.path = some route)
    (hmethod : r.method = route.method) (s : Service) :
    (answer r).after s = (route.handle .webhooks r).after s := by
  unfold answer
  rw [hpath]
  dsimp only
  rw [if_pos hmethod, after_orElse_pure]

theorem after_answer_cases (r : Request) (s : Service) :
    (∃ route, Route.ofPath? r.path = some route ∧ r.method = route.method ∧
      (answer r).after s = (route.handle .webhooks r).after s) ∨
    (∀ route, Route.ofPath? r.path = some route → r.method ≠ route.method) ∧
      (answer r).after s = s := by
  cases hpath : Route.ofPath? r.path with
  | none => exact .inr ⟨nofun, by rw [answer, hpath]; rfl⟩
  | some route =>
    by_cases hmethod : r.method = route.method
    · exact .inl ⟨route, rfl, hmethod, after_answer hpath hmethod s⟩
    · refine .inr ⟨fun other same => Option.some.inj same ▸ hmethod, ?_⟩
      rw [answer, hpath]
      dsimp only
      rw [if_neg hmethod]
      rfl

theorem tends_answer (r : Request) (s : Service) : Tends (r.recorded s) ((answer r).after s) := by
  rcases after_answer_cases r s with ⟨route, hpath, hmethod, answered⟩ | ⟨nowhere, unchanged⟩
  · rw [answered]
    by_cases hroute : route = .analysisFinished
    · subst hroute
      exact tends_finishedRoute hpath hmethod
    · rw [Request.recorded, Request.finished?, if_neg (by simp [hpath, hroute])]
      exact tends_route hroute r s
  · rw [unchanged, Request.recorded, Request.finished?,
      if_neg fun finished => nowhere _ finished.1 finished.2]
    exact .refl s

theorem handle_eq (r : Request) : handle .webhooks r =
    if r.path ≠ Route.metrics.path then measure (.countRequest r.path) >>= fun _ => answer r
    else answer r := rfl

theorem after_handle_of_path_ne {r : Request} (h : r.path ≠ Route.metrics.path) (s : Service) :
    (handle .webhooks r).after s =
      (answer r).after { s with metrics := s.metrics.countRequest r.path } := by
  rw [handle_eq, if_pos h, after_bind_ok (measure_apply ..)]

theorem after_handle (r : Request) (s : Service) :
    ∃ metrics, (handle .webhooks r).after s = (answer r).after { s with metrics } := by
  by_cases h : r.path = Route.metrics.path
  · exact ⟨s.metrics, by rw [handle_eq, if_neg (not_not.2 h)]⟩
  · exact ⟨_, after_handle_of_path_ne h s⟩

theorem tends_handle (r : Request) (s : Service) :
    Tends (r.recorded s) ((handle .webhooks r).after s) := by
  have counted (metrics : Metrics) : Tends (r.recorded s) (r.recorded { s with metrics }) := by
    unfold Request.recorded
    cases r.finished? <;> exact ⟨rfl, rfl, rfl, rfl⟩
  obtain ⟨metrics, answered⟩ := after_handle r s
  rw [answered]
  exact (counted metrics).trans (tends_answer r _)

theorem edits_handle (r : Request) (s : Service) :
    Store.Edits s.clock s.store ((handle .webhooks r).after s).store := by
  have others : Store.Edit s.clock (r.recorded s).store ((handle .webhooks r).after s).store :=
    .others (tends_handle r s).store
  refine Relation.ReflTransGen.tail ?_ others
  unfold Request.recorded
  cases r.finished? with
  | none => exact .refl
  | some f => exact f.edits_left s.clock s.store

end AnalysisWebhooks
