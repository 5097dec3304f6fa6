import AnalysisWebhooks.Proofs.Json.RoundTrip
import AnalysisWebhooks.Proofs.Service.Announcing
import AnalysisWebhooks.Proofs.Web.Requests

namespace AnalysisWebhooks

open AnalysisWebhooks.Action

def Check.value? {α : Type} : Check α → Option α
  | ok a => some a
  | bad _ => none

section Bodies

variable {α : Type} (title : String) (read : Json → Check α) {body : String}

theorem bodyDocument_eq_object {members : Json.Members} :
    bodyDocument body = .ok (.object members) ↔ Json.ofText? body = some (.object members) := by
  unfold bodyDocument
  split
  · rename_i empty
    have hbody : body = "" := by simpa [String.isEmpty_iff] using empty
    subst hbody
    have none : Json.ofText? "" = none := rfl
    simp [none]
  · cases Json.ofText? body <;> simp

theorem readBody_of_object {members : Json.Members}
    (h : Json.ofText? body = some (.object members)) :
    readBody title read body = match read (.object members) with
      | .ok a => .ok a
      | .bad faults => .error (.invalid title faults) := by
  rw [readBody, bodyDocument_eq_object.2 h]
  show (match read (.object members) with
    | .ok a => pure a
    | .bad faults => throw (.invalid title faults) : Except Refusal α) = _
  cases read (.object members) <;> rfl

end Bodies

def sending (route : Route) (j : Json) : Request :=
  ⟨route.method, route.path, "", j.write⟩

def Store.requested (store : Store) (r : Request) : Store :=
  ((handle .webhooks r).after { store }).store

def Store.asked (store : Store) (route : Route) : Service :=
  { store := store, metrics := ({} : Metrics).countRequest route.path }

theorem ofPath?_path (route : Route) : Route.ofPath? route.path = some route := by
  cases route <;> decide +kernel

section Sending

variable {α : Type} {title : String} {read : Json → Check α} {go : α → Action Response}
  {route : Route} {members : Json.Members}

theorem readBody_sending (plain : (Json.object members).Plain) :
    readBody title read (sending route (.object members)).body =
      match read (.object members) with
      | .ok a => .ok a
      | .bad faults => .error (.invalid title faults) :=
  readBody_of_object title read (Json.ofText?_write plain)

theorem withBody_sending (plain : (Json.object members).Plain) (go : α → Action Response) :
    withBody title read (sending route (.object members)).body go =
      match read (.object members) with
      | .ok a => go a
      | .bad faults => pure (.refused (.invalid title faults)) := by
  rw [withBody, readBody_sending plain]
  cases read (.object members) <;> rfl

theorem path_ne (h : route ≠ .metrics) : route.path ≠ Route.metrics.path := by
  intro same
  have hroute : some route = some Route.metrics := by
    rw [← ofPath?_path route, same, ofPath?_path]
  exact h (Option.some.inj hroute)

theorem requested_sending (plain : (Json.object members).Plain) (counted : route ≠ .metrics)
    (takes : ∀ r, route.handle .webhooks r = withBody title read r.body go) (store : Store) :
    store.requested (sending route (.object members)) =
      (read (.object members)).value?.elim store fun a =>
        ((go a).after (store.asked route)).store := by
  have hroute : Route.ofPath? (sending route (.object members)).path = some route :=
    ofPath?_path route
  have hpath : (sending route (.object members)).path ≠ Route.metrics.path := path_ne counted
  have answered (s : Service) : (answer (sending route (.object members))).after s =
      (withBody title read (sending route (.object members)).body go).after s := by
    rw [after_answer hroute rfl, takes]
  rw [Store.requested, after_handle_of_path_ne hpath, answered, withBody_sending plain]
  cases read (.object members) <;> rfl

theorem requested_finished (plain : (Json.object members).Plain) (store : Store) :
    store.requested (sending .analysisFinished (.object members)) =
      (FinishedAnalysis.read (.object members)).value?.elim store fun f =>
        ((handleFinished f).after (store.asked .analysisFinished)).store := by
  have counted : Route.analysisFinished ≠ .metrics := by decide
  exact requested_sending plain counted (fun _ => rfl) store

theorem requested_unhooked (plain : (Json.object members).Plain) {store : Store}
    (unhooked : store.properties = []) :
    store.requested (sending .analysisFinished (.object members)) =
      (FinishedAnalysis.read (.object members)).value?.elim store fun f =>
        f.left Calendar.noon store := by
  rw [requested_finished plain]
  cases (FinishedAnalysis.read (.object members)).value? with
  | none => rfl
  | some f =>
    refine FinishedAnalysis.store_of_not_enabled ?_
    have blank : store.configurationFor (some f.report.project.uuid.shown) = ⟨[]⟩ := by
      simp [Store.configurationFor, Store.configurationOf, Store.propertiesOf,
        Store.propertyRows, Store.mergedInto, unhooked]
    show (store.configurationFor _).isEnabled = false
    rw [blank]
    rfl

theorem apply_noon (key value : String) (component : Option String) (store : Store) :
    SetSetting.apply ⟨.plain key, .one (.plain value), component.map .plain⟩ Calendar.noon store =
      .ok { store with properties := (store.withoutProperty key component).properties ++
        [⟨key, component, some value, "2026-10-18T12:00:00.000000Z"⟩] } := by
  have noon : storedDate Calendar.noon = .ok "2026-10-18T12:00:00.000000Z" := by decide +kernel
  rw [SetSetting.apply, RawText.option_mapM_encoded_plain, noon]
  show store.withProperty Calendar.noon key component (some value) = _
  rw [Store.withProperty, noon]
  rfl

theorem requested_set {key value : String} {component : Option String}
    (plain : (Json.object members).Plain)
    (told : SetSetting.read (.object members) =
      .ok ⟨.plain key, .one (.plain value), component.map .plain⟩) (store : Store) :
    store.requested (sending .setSetting (.object members)) =
      { store with properties := (store.withoutProperty key component).properties ++
          [⟨key, component, some value, "2026-10-18T12:00:00.000000Z"⟩] } := by
  have counted : Route.setSetting ≠ .metrics := by decide
  let s := store.asked .setSetting
  have put : SetSetting.apply ⟨.plain key, .one (.plain value), component.map .plain⟩ s.clock
      s.store = _ := apply_noon key value component store
  rw [requested_sending plain counted (fun _ => rfl) store, told]
  show ((handleSet _).after s).store = _
  unfold handleSet
  rw [after_get_bind, after_bind_pure, Action.after, change_apply, put]

theorem finished?_sending (plain : (Json.object members).Plain) :
    (sending .analysisFinished (.object members)).finished? =
      (FinishedAnalysis.read (.object members)).value? := by
  rw [Request.finished?, if_pos ⟨ofPath?_path .analysisFinished, rfl⟩, readBody_sending plain]
  cases FinishedAnalysis.read (.object members) <;> rfl

theorem requested_of_finished {f : FinishedAnalysis} (plain : (Json.object members).Plain)
    (h : (sending .analysisFinished (.object members)).finished? = some f) (store : Store) :
    store.requested (sending .analysisFinished (.object members)) =
      ((handleFinished f).after (store.asked .analysisFinished)).store := by
  rw [requested_finished plain, ← finished?_sending plain, h]
  rfl

end Sending

end AnalysisWebhooks
