import AnalysisWebhooks.Proofs.Issue.Posting
import AnalysisWebhooks.Proofs.Service.Effect

namespace AnalysisWebhooks

open AnalysisWebhooks.Action

def Appends (retention : Int) (rows : List (DeliveryRow String String)) (s t : Store) : Prop :=
  ∃ steps, DeliveryStep.run retention s steps = .ok t ∧ DeliveryStep.recorded steps = rows

namespace Appends

variable {retention : Int} {rows more : List (DeliveryRow String String)} {s t u : Store}

theorem refl (s : Store) : Appends retention [] s s :=
  ⟨[], rfl, rfl⟩

theorem trans (hst : Appends retention rows s t) (htu : Appends retention more t u) :
    Appends retention (rows ++ more) s u := by
  obtain ⟨first, hfirst, rfl⟩ := hst
  obtain ⟨second, hsecond, rfl⟩ := htu
  exact ⟨first ++ second, DeliveryStep.run_append.2 ⟨t, hfirst, hsecond⟩,
    DeliveryStep.recorded_append first second⟩

theorem record {uuid : String} {d : Delivery} {row : DeliveryRow String String}
    (hrow : DeliveryRow.ofDelivery uuid d = .ok row) (h : s.withDelivery uuid d = .ok t) :
    Appends retention [row] s t := by
  refine ⟨[.record uuid d], bind_eq_ok.2 ⟨t, h, rfl⟩, ?_⟩
  simp [DeliveryStep.recorded, DeliveryStep.row?, hrow, Except.toOption]

theorem trim {project : String} {removed : Nat}
    (h : s.trimmed project retention = .ok (removed, t)) :
    Appends retention [] s t :=
  ⟨[.trim project], bind_eq_ok.2 ⟨t, map_eq_ok.2 ⟨_, h, rfl⟩, rfl⟩, rfl⟩

theorem mem {row : DeliveryRow String String} (h : Appends retention rows s t)
    (hrow : row ∈ t.deliveries) : row ∈ s.deliveries ∨ row ∈ rows := by
  obtain ⟨steps, hrun, rfl⟩ := h
  exact DeliveryStep.mem_of_run hrun hrow

end Appends

section Dispatch

variable {payload : Payload} {webhooks : List Webhook} {deliveries : List Delivery} {s t : Service}

theorem appends_of_delivered (retention : Int) (h : DeliveredAll payload webhooks deliveries s t) :
    ∃ rows, t.store = s.store.addingDeliveries rows ∧ rows.map (·.webhook) = webhooks ∧
      Appends retention rows s.store t.store := by
  induction h with
  | nil s =>
    have same : s.store = s.store.addingDeliveries [] := by
      rw [Store.addingDeliveries, List.append_nil]
    exact ⟨[], same, rfl, .refl _⟩
  | @cons w d rest more s called t store h hd _ ih =>
    obtain ⟨tells, log, rfl⟩ := Webhook.call_eq_ok h
    obtain ⟨row, hrow, -, rfl⟩ := withDelivery_eq_ok.1 hd
    obtain ⟨rows, added, same, appends⟩ := ih
    have store : t.store = (s.store.addingDeliveries [row]).addingDeliveries rows := added
    refine ⟨row :: rows, ?_, ?_, (Appends.record hrow hd).trans appends⟩
    · rw [store, Store.addingDeliveries_append, List.singleton_append]
    · rw [List.map_cons, same, (DeliveryRow.webhook_of_ofDelivery hrow).1, tells.webhook]

theorem exists_appends_deliverAll (retention : Int) (payload : Payload) (webhooks : List Webhook)
    (s : Service) :
    ∃ rows, ((deliverAll payload webhooks).after s).store = s.store.addingDeliveries rows ∧
      rows.map (·.webhook) <+: webhooks ∧
      Appends retention rows s.store ((deliverAll payload webhooks).after s).store := by
  obtain ⟨before, deliveries, t, front, all, store⟩ := exists_delivered payload webhooks s
  obtain ⟨rows, added, same, appends⟩ := appends_of_delivered retention all
  rw [store]
  exact ⟨rows, added, same ▸ front, appends⟩

def rowsOfCalls (payload : Payload) (webhooks : List Webhook) (s : Service) :
    List (DeliveryRow String String) :=
  ((deliverAll payload webhooks).after s).store.deliveries.drop s.store.deliveries.length

theorem appends_deliverAll (retention : Int) (payload : Payload) (webhooks : List Webhook)
    (s : Service) :
    (rowsOfCalls payload webhooks s).map (·.webhook) <+: webhooks ∧
      Appends retention (rowsOfCalls payload webhooks s) s.store
        ((deliverAll payload webhooks).after s).store := by
  obtain ⟨rows, added, prior, appends⟩ := exists_appends_deliverAll retention payload webhooks s
  have same : rowsOfCalls payload webhooks s = rows := by
    rw [rowsOfCalls, added, Store.addingDeliveries, List.drop_left]
  rw [same]
  exact ⟨prior, appends⟩

theorem appends_purge (project : String) (s : Service) :
    Appends s.settings.retentionCount [] s.store ((purge project).after s).store := by
  unfold purge
  rw [after_get_bind, after_bind, ask_apply]
  cases h : s.store.trimmed project s.settings.retentionCount with
  | error failure => exact .refl _
  | ok result =>
    obtain ⟨removed, store⟩ := result
    dsimp only
    rw [after_set_bind]
    split <;> exact .trim h

end Dispatch

theorem Configuration.subject_of_mem_webhooks {c : Configuration} {subject : Subject} {w : Webhook}
    (h : w ∈ c.webhooks subject) : w.subject = subject := by
  obtain ⟨key, -, h⟩ := List.mem_filterMap.1 h
  unfold webhook? at h
  split at h
  · cases h
    rfl
  · cases h

namespace Notice

variable (n : Notice) (s : Service)

def rows : List (DeliveryRow String String) :=
  if n.analysis.IsLinkable then
    rowsOfCalls (n.analysis.payload s.server s.clock) (n.configuration.webhooks n.subject) s
  else []

theorem subject_of_mem_rows {n : Notice} {s : Service} {row : DeliveryRow String String}
    (h : row ∈ n.rows s) : row.webhook.subject = n.subject := by
  unfold rows at h
  split at h
  case isFalse => cases h
  have told := (appends_deliverAll 0 (n.analysis.payload s.server s.clock)
    (n.configuration.webhooks n.subject) s).1
  exact Configuration.subject_of_mem_webhooks (told.subset (List.mem_map_of_mem h))

theorem appends_tell :
    Appends s.settings.retentionCount (n.rows s) s.store (n.tell.after s).store := by
  rw [n.after_tell]
  unfold dispatch rows
  cases n.configuration.webhooks n.subject with
  | nil =>
    have none : rowsOfCalls (n.analysis.payload s.server s.clock) [] s = [] := List.drop_length
    rw [none, ite_self]
    exact .refl _
  | cons w rest =>
    dsimp only
    rw [after_makePayload_bind]
    split
    case isFalse => exact .refl _
    generalize hpayload : n.analysis.payload s.server s.clock = payload
    have all := (appends_deliverAll s.settings.retentionCount payload (w :: rest) s).2
    have sends := sends_deliverAll payload (w :: rest) s
    rw [after] at all sends
    rw [after_bind]
    cases delivered : deliverAll payload (w :: rest) s with
    | error failure t =>
      rw [delivered] at all
      exact all
    | ok deliveries t =>
      rw [delivered] at all sends
      -- what comes after the calls trims the project, but appends nothing
      have trimmed := appends_purge n.subject.project t
      rw [sends.settings] at trimmed
      dsimp only at all ⊢
      rw [after_bind_pure]
      simpa only [List.append_nil] using all.trans trimmed

end Notice

def rowsOfNotices : List Notice → Service → List (DeliveryRow String String)
  | [], _ => []
  | n :: rest, s =>
    n.rows s ++ match n.tell s with
      | .ok _ t => rowsOfNotices rest t
      | .error _ _ => []

theorem appends_tellAll (notices : List Notice) (s : Service) :
    Appends s.settings.retentionCount (rowsOfNotices notices s) s.store
      ((tellAll notices).after s).store := by
  induction notices generalizing s with
  | nil => exact .refl _
  | cons n rest ih =>
    have first := n.appends_tell s
    have sends := n.sends_tell s
    rw [after] at first sends
    rw [tellAll_cons, after_bind, rowsOfNotices]
    cases told : n.tell s with
    | error failure t =>
      rw [told] at first
      simpa only [List.append_nil] using first
    | ok _ t =>
      rw [told] at first sends
      have others := ih t
      rw [sends.settings] at others
      exact first.trans others

theorem subject_of_mem_rowsOfNotices {notices : List Notice} {s : Service}
    {row : DeliveryRow String String} (h : row ∈ rowsOfNotices notices s) :
    ∃ n ∈ notices, row.webhook.subject = n.subject := by
  induction notices generalizing s with
  | nil => cases h
  | cons n rest ih =>
    rcases List.mem_append.1 h with h | h
    · exact ⟨n, List.mem_cons_self, n.subject_of_mem_rows h⟩
    · split at h
      · obtain ⟨other, hother, same⟩ := ih h
        exact ⟨other, List.mem_cons_of_mem n hother, same⟩
      · cases h

end AnalysisWebhooks
