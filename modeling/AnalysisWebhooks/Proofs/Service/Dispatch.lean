import AnalysisWebhooks.Proofs.Service.Call
import AnalysisWebhooks.Proofs.Webhook.Told
import AnalysisWebhooks.Service.AnalysisTasks

namespace AnalysisWebhooks

open AnalysisWebhooks.Action

section Sends

variable {sent : String → Prop} (payload : Payload)

theorem sends_observe (success : Bool) (durationMs : Option Int) :
    Moves (Sends sent) (observeDelivery success durationMs) := by
  refine sends_bind (sends_measure _) fun _ => ?_
  cases durationMs with
  | none => exact moves_pure Sends.refl _
  | some ms =>
    dsimp only
    split
    · exact sends_bind (moves_throw Sends.refl _) fun _ => sends_measure _
    · exact sends_measure _

theorem sends_recordDelivery (d : Delivery) : Moves (Sends sent) (recordDelivery d) := by
  intro s
  unfold recordDelivery
  rw [after_get_bind, after_set_bind, after_bind, change_apply]
  dsimp only
  cases h : s.store.withDelivery (deliveryUuid (s.uuids + 1)) d with
  | ok store =>
    have applied : (DeliveryStep.record (deliveryUuid (s.uuids + 1)) d).apply
        s.settings.retentionCount s.store = .ok store := h
    exact .step rfl rfl rfl rfl applied
  | error failure => exact .of_store_eq rfl rfl rfl rfl rfl

theorem sends_purge (project : String) : Moves (Sends sent) (purge project) := by
  intro s
  unfold purge
  rw [after_get_bind, after_bind, ask_apply]
  cases h : s.store.trimmed project s.settings.retentionCount with
  | error failure => exact .refl s
  | ok result =>
    obtain ⟨removed, store⟩ := result
    have applied :
        (DeliveryStep.trim project).apply s.settings.retentionCount s.store = .ok store :=
      map_eq_ok.2 ⟨_, h, rfl⟩
    dsimp only
    rw [after_set_bind]
    split
    · refine .trans ?_ (sends_bind (sends_log _ _)
        (fun _ => moves_pure Sends.refl removed) _)
      exact .step rfl rfl rfl rfl applied
    · exact .step rfl rfl rfl rfl applied

theorem sends_deliver (w : Webhook) : Moves (Sends (· = payload.body)) (deliver payload w) :=
  sends_bind (w.sends_call payload) fun d =>
    sends_bind (sends_log _ _) fun _ =>
      sends_bind (sends_observe _ _) fun _ =>
        sends_bind (sends_recordDelivery d) fun _ => moves_pure Sends.refl d

theorem sends_deliverAll (webhooks : List Webhook) :
    Moves (Sends (· = payload.body)) (deliverAll payload webhooks) := by
  induction webhooks with
  | nil => exact moves_pure Sends.refl _
  | cons w rest ih =>
    exact sends_bind (sends_deliver payload w) fun _ =>
      sends_bind ih fun _ => moves_pure Sends.refl _

end Sends

section Contained

theorem Action.contained_sends {α β : Type} {x : Action α} {f : α → Action β}
    {sent : String → Prop} (moves : Moves (Sends sent) x) (hx : Contained (·.network.Quiet) x)
    (hf : ∀ a, Contained (·.network.Quiet) (f a)) : Contained (·.network.Quiet) (x >>= f) :=
  contained_bind (fun s hs => (moves s).quiet hs) hx hf

theorem ordinary_storedDate (m : Calendar.Moment) : Ordinary (storedDate m) := by
  unfold storedDate
  split
  · exact ordinary_ok _
  · exact ordinary_error rfl

theorem ordinary_columnNumber (n : Int) : Ordinary (columnNumber n) := by
  unfold columnNumber
  split
  · exact ordinary_ok _
  · exact ordinary_error rfl

theorem ordinary_column (n : Option Int) : Ordinary (n.mapM columnNumber) := by
  cases n with
  | none => exact ordinary_ok _
  | some n => exact ordinary_map (ordinary_columnNumber n)

theorem ordinary_withDelivery (s : Store) (uuid : String) (d : Delivery) :
    Ordinary (s.withDelivery uuid d) := by
  refine ordinary_bind ?_ fun row => ?_
  · exact ordinary_bind (ordinary_storedDate _) fun _ =>
      ordinary_bind (RawText.ordinary_option_mapM_encoded _) fun _ =>
        ordinary_bind (ordinary_column _) fun _ =>
          ordinary_bind (ordinary_column _) fun _ => ordinary_ok _
  · split
    · exact ordinary_bind (ordinary_error rfl) fun _ => ordinary_ok _
    · exact ordinary_ok _

theorem ordinary_trimmed (s : Store) (project : String) (retention : Int) :
    Ordinary (s.trimmed project retention) :=
  ordinary_bind (ordinary_map (ordinary_columnNumber _)) fun _ => ordinary_ok _

theorem contained_observe (success : Bool) (durationMs : Option Int) :
    Contained (fun _ => True) (observeDelivery success durationMs) := by
  refine contained_bind_always (contained_measure _) fun _ => ?_
  cases durationMs with
  | none => exact contained_pure _
  | some ms =>
    dsimp only
    split
    · exact contained_throw rfl
    · exact contained_measure _

theorem contained_recordDelivery (d : Delivery) :
    Contained (fun _ => True) (recordDelivery d) :=
  contained_get_bind fun _ => contained_bind_always (contained_set _) fun _ =>
    contained_bind_always (contained_change fun store => ordinary_withDelivery store _ d) fun _ =>
      contained_pure _

theorem contained_purge (project : String) : Contained (fun _ => True) (purge project) := by
  refine contained_get_bind fun _ => contained_bind_always
    (contained_ask fun store => ordinary_trimmed store project _) fun result => ?_
  obtain ⟨removed, store⟩ := result
  refine contained_bind_always (contained_set _) fun _ => ?_
  dsimp only
  split
  · exact contained_bind_always (contained_log _ _) fun _ => contained_pure _
  · exact contained_pure _

theorem contained_deliver (payload : Payload) (w : Webhook) :
    Contained (·.network.Quiet) (deliver payload w) :=
  contained_sends (w.sends_call payload) (w.contained_call payload) fun d => contained_of_always <|
    contained_bind_always (contained_log _ _) fun _ =>
      contained_bind_always (contained_observe _ _) fun _ =>
        contained_bind_always (contained_recordDelivery d) fun _ => contained_pure d

theorem contained_deliverAll (payload : Payload) (webhooks : List Webhook) :
    Contained (·.network.Quiet) (deliverAll payload webhooks) := by
  induction webhooks with
  | nil => exact contained_pure _
  | cons w rest ih =>
    exact contained_sends (sends_deliver payload w) (contained_deliver payload w) fun _ =>
      contained_sends (sends_deliverAll payload rest) ih fun _ => contained_pure _

end Contained

section Blind

theorem blind_observe (success : Bool) (durationMs : Option Int) :
    Blind (observeDelivery success durationMs) := by
  refine blind_bind (blind_measure _) fun _ => ?_
  cases durationMs with
  | none => exact blind_pure _
  | some ms =>
    dsimp only
    split
    · exact blind_bind (blind_throw _) fun _ => blind_measure _
    · exact blind_measure _

theorem blind_recordDelivery (d : Delivery) : Blind (recordDelivery d) :=
  blind_get_bind fun _ _ _ => alike_bind (alike_set rfl) fun _ _ _ =>
    blind_bind (blind_change _) fun _ => blind_pure _

theorem blind_purge (project : String) : Blind (purge project) := by
  refine blind_get_bind fun s metrics log => alike_bind (blind_ask _) fun result _ same => ?_
  obtain ⟨removed, store⟩ := result
  rw [← same]
  refine alike_bind (alike_set rfl) fun _ _ _ => ?_
  dsimp only
  split
  · exact blind_bind (blind_log _ _) fun _ => blind_pure _
  · exact blind_pure _

theorem blind_deliver (payload : Payload) (w : Webhook) : Blind (deliver payload w) :=
  blind_bind (w.blind_call payload) fun d => blind_bind (blind_log _ _) fun _ =>
    blind_bind (blind_observe _ _) fun _ => blind_bind (blind_recordDelivery d) fun _ =>
      blind_pure d

theorem blind_deliverAll (payload : Payload) (webhooks : List Webhook) :
    Blind (deliverAll payload webhooks) := by
  induction webhooks with
  | nil => exact blind_pure _
  | cons w rest ih =>
    exact blind_bind (blind_deliver payload w) fun _ => blind_bind ih fun _ => blind_pure _

theorem blind_makePayload (a : ProjectAnalysis) : Blind (makePayload a) :=
  blind_get_bind fun _ _ _ => blind_obtain _

end Blind

section Dispatch

variable (configuration : Configuration) (subject : Subject) (a : ProjectAnalysis)

variable {a} in
theorem makePayload_apply (h : a.IsLinkable) (s : Service) :
    makePayload a s = .ok (a.payload s.server s.clock) s := by
  rw [makePayload, get_bind, ProjectAnalysis.createPayload_eq_ok h]
  rfl

variable {a} in
theorem makePayload_of_not_isLinkable (h : ¬ a.IsLinkable) (s : Service) :
    ∃ failure, failure.isOrdinary = true ∧ makePayload a s = .error failure s := by
  cases htexts : a.linkTexts.mapM RawText.encoded with
  | ok texts => exact absurd (RawText.exists_mapM_encoded.1 ⟨texts, htexts⟩) h
  | error failure =>
    refine ⟨failure, RawText.ordinary_mapM_encoded _ failure htexts, ?_⟩
    rw [makePayload, get_bind, ProjectAnalysis.createPayload, htexts]
    rfl

theorem after_makePayload_bind {α : Type} (f : Payload → Action α) (s : Service) :
    (makePayload a >>= f).after s =
      if a.IsLinkable then (f (a.payload s.server s.clock)).after s else s := by
  split
  · rename_i h
    exact after_bind_ok (makePayload_apply h s)
  · rename_i h
    obtain ⟨failure, -, hpayload⟩ := makePayload_of_not_isLinkable h s
    rw [after_bind, hpayload]

theorem after_makePayload (s : Service) : (makePayload a).after s = s := by
  rw [← bind_pure (makePayload a), after_makePayload_bind]
  exact ite_self s

theorem contained_makePayload : Contained (·.network.Quiet) (makePayload a) :=
  contained_get_bind fun _ => contained_obtain <|
    ordinary_bind (RawText.ordinary_mapM_encoded _) fun _ => ordinary_ok _

theorem dispatch_of_webhooks_eq_nil (h : configuration.webhooks subject = []) :
    dispatch configuration subject (makePayload a) = pure [] := by
  rw [dispatch, h]

theorem blind_dispatch : Blind (dispatch configuration subject (makePayload a)) := by
  unfold dispatch
  cases configuration.webhooks subject with
  | nil => exact blind_pure _
  | cons w rest =>
    exact blind_bind (blind_makePayload a) fun payload =>
      blind_bind (blind_deliverAll payload (w :: rest)) fun _ =>
        blind_bind (blind_purge _) fun _ => blind_pure _

theorem contained_dispatch :
    Contained (·.network.Quiet) (dispatch configuration subject (makePayload a)) := by
  unfold dispatch
  cases configuration.webhooks subject with
  | nil => exact contained_pure _
  | cons w rest =>
    refine contained_bind (fun s hs => (after_makePayload a s).symm ▸ hs)
      (contained_makePayload a) fun payload =>
      contained_sends (sends_deliverAll payload _) (contained_deliverAll payload _) fun _ => ?_
    exact contained_of_always <|
      contained_bind_always (contained_purge _) fun _ => contained_pure _

def Service.bodyOf (s : Service) : String :=
  (a.payload s.server s.clock).body

theorem Sends.bodyOf {sent : String → Prop} {s t : Service} (h : Sends sent s t) :
    t.bodyOf a = s.bodyOf a := by
  rw [Service.bodyOf, Service.server, h.settings, h.clock]
  rfl

theorem sends_dispatch (s : Service) : Sends (· = s.bodyOf a) s
    ((dispatch configuration subject (makePayload a)).after s) := by
  unfold dispatch
  cases configuration.webhooks subject with
  | nil => exact .refl s
  | cons w rest =>
    have all :
        Moves (Sends (· = s.bodyOf a)) (deliverAll (a.payload s.server s.clock) (w :: rest)) :=
      sends_deliverAll _ _
    rw [after_makePayload_bind]
    split
    · exact sends_bind all (fun _ => sends_bind (sends_purge _) fun _ => moves_pure Sends.refl _) s
    · exact .refl s

def Calls (s t : Service) : Prop :=
  s.calls.length < t.calls.length

theorem Calls.sends {sent : String → Prop} {s t u : Service} (hst : Calls s t)
    (htu : Sends sent t u) : Calls s u :=
  Nat.lt_of_lt_of_le hst htu.calls_le

theorem calls_bind {α β : Type} {x : Action α} {f : α → Action β}
    (hx : Moves Calls x) (hf : ∀ a, Moves (Sends fun _ => True) (f a)) : Moves Calls (x >>= f) :=
  moves_bind Calls.sends hx hf

theorem calls_deliver (payload : Payload) (w : Webhook) : Moves Calls (deliver payload w) := by
  refine calls_bind ?_ fun d => sends_bind (sends_log _ _) fun _ =>
    sends_bind (sends_observe _ _) fun _ => sends_bind (sends_recordDelivery d) fun _ =>
      moves_pure Sends.refl d
  intro s
  rw [after, Webhook.call_apply]
  have one : Calls s (s.calling w payload) := by simp [Calls, Service.calling]
  have rest : Moves (Sends fun _ => True) (w.conclude payload s) := w.sends_conclude payload s
  exact one.sends (rest _)

variable {a} in
theorem calls_dispatch (linkable : a.IsLinkable) (h : configuration.webhooks subject ≠ []) :
    Moves Calls (dispatch configuration subject (makePayload a)) := by
  intro s
  unfold dispatch
  cases hw : configuration.webhooks subject with
  | nil => exact absurd hw h
  | cons w rest =>
    have first : Moves Calls (deliverAll (a.payload s.server s.clock) (w :: rest)) :=
      calls_bind (calls_deliver _ w) fun _ =>
        sends_bind (fun t => (sends_deliverAll _ rest t).mono fun _ _ => trivial) fun _ =>
          moves_pure Sends.refl _
    rw [after_makePayload_bind, if_pos linkable]
    exact calls_bind first (fun _ =>
      sends_bind (sends_purge _) fun _ => moves_pure Sends.refl _) s

end Dispatch

end AnalysisWebhooks
