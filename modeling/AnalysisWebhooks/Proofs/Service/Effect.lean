import AnalysisWebhooks.Proofs.Service.Delivering
import AnalysisWebhooks.Proofs.Store.Listed

namespace AnalysisWebhooks

open AnalysisWebhooks.Action

-- The webhooks are called in order, so each is answered by the endpoint of its own place.
def ToldBy (n : Network) (earlier : Nat) (payload : Payload) (webhooks : List Webhook)
    (deliveries : List Delivery) : Prop :=
  List.Forall₂ (fun w d => d.Tells w.1 payload (n.endpoint w.2 w.1.url).outcome)
    (webhooks.zipIdx earlier) deliveries

def Records (deliveries : List Delivery) (rows : List (DeliveryRow String String)) : Prop :=
  List.Forall₂ (fun d row => ∃ uuid, DeliveryRow.ofDelivery uuid d = .ok row) deliveries rows

def Store.addingDeliveries (s : Store) (rows : List (DeliveryRow String String)) : Store :=
  { s with deliveries := s.deliveries ++ rows }

theorem Store.addingDeliveries_append (s : Store)
    (first second : List (DeliveryRow String String)) :
    (s.addingDeliveries first).addingDeliveries second = s.addingDeliveries (first ++ second) := by
  simp only [addingDeliveries, List.append_assoc]

structure Recorded (payload : Payload) (webhooks : List Webhook) (deliveries : List Delivery)
    (s t : Service) : Prop where
  settings : t.settings = s.settings
  network : t.network = s.network
  clock : t.clock = s.clock
  calls : t.calls = s.calls ++ webhooks.map (·.request payload s.settings.timeoutSeconds)
  told : ToldBy s.network s.calls.length payload webhooks deliveries
  rows : ∃ rows, t.store = s.store.addingDeliveries rows ∧
    Records deliveries rows ∧ rows.map (·.webhook) = webhooks
  metrics : t.metrics = deliveries.foldl Metrics.observing s.metrics

theorem recorded_of_delivered {payload : Payload} {webhooks : List Webhook}
    {deliveries : List Delivery} {s t : Service}
    (h : DeliveredAll payload webhooks deliveries s t) :
    Recorded payload webhooks deliveries s t := by
  induction h with
  | nil s =>
    have same : s.store = s.store.addingDeliveries [] := by
      rw [Store.addingDeliveries, List.append_nil]
    exact ⟨rfl, rfl, rfl, (List.append_nil _).symm, .nil, ⟨[], same, .nil, rfl⟩, rfl⟩
  | @cons w d rest more s called t store h hd _ ih =>
    obtain ⟨tells, log, rfl⟩ := Webhook.call_eq_ok h
    obtain ⟨row, hrow, -, rfl⟩ := withDelivery_eq_ok.1 hd
    obtain ⟨rows, hstore, records, webhooks⟩ := ih.rows
    have calls : t.calls = s.calls ++ [w.request payload s.settings.timeoutSeconds] ++
        rest.map (·.request payload s.settings.timeoutSeconds) := ih.calls
    have store : t.store = (s.store.addingDeliveries [row]).addingDeliveries rows := hstore
    have rowOf : row.webhook = w :=
      (DeliveryRow.webhook_of_ofDelivery hrow).1.trans tells.webhook
    have one : (s.calls ++ [w.request payload s.settings.timeoutSeconds]).length =
        s.calls.length + 1 := List.length_append
    have told : ToldBy s.network (s.calls.length + 1) payload rest more := one ▸ ih.told
    refine ⟨ih.settings, ih.network, ih.clock, ?_, .cons tells told,
      ⟨row :: rows, ?_, .cons ⟨_, hrow⟩ records, ?_⟩, ih.metrics⟩
    · rw [calls, List.append_assoc]
      rfl
    · rw [store, Store.addingDeliveries_append, List.singleton_append]
    · rw [List.map_cons, rowOf, webhooks]

section Purge

def Metrics.pruning (m : Metrics) (removed : Nat) : Metrics :=
  { m with pruned := m.pruned + removed }

def Service.trimming (s : Service) (project : String) : Service :=
  let kept := s.store.purged project (keptCount s.settings.retentionCount)
  let removed := s.store.deliveries.length - kept.deliveries.length
  { s with
    store := kept
    metrics := s.metrics.pruning removed }

def Service.trimmedRows (s : Service) (project : String) : Nat :=
  s.store.deliveries.length - (s.trimming project).store.deliveries.length

theorem purge_of_lt {s : Service} (h : s.settings.retentionCount < columnBound)
    (project : String) :
    ∃ log, purge project s = .ok (s.trimmedRows project) { s.trimming project with log } ∧
      (s.trimmedRows project = 0 → log = s.log) := by
  have trimmed : s.store.trimmed project s.settings.retentionCount =
      .ok (s.trimmedRows project, (s.trimming project).store) := by
    rw [Store.trimmed, Store.rowLimit_of_lt h]
    rfl
  unfold purge
  rw [get_bind, bind_apply, ask_apply, trimmed]
  dsimp only
  rw [set_bind]
  split
  · rename_i some_removed
    exact ⟨_, rfl, fun none_removed => absurd none_removed (Nat.ne_of_gt some_removed)⟩
  · exact ⟨s.log, rfl, fun _ => rfl⟩

theorem purge_of_fits {s : Service} (h : fitsColumn s.settings.retentionCount = true)
    (project : String) :
    ∃ removed log, purge project s = .ok removed { s.trimming project with log } := by
  obtain ⟨log, purged, -⟩ := purge_of_lt (fitsColumn_iff.1 h).2 project
  exact ⟨_, log, purged⟩

theorem calls_purge (project : String) (s : Service) :
    ((purge project).after s).calls = s.calls := by
  unfold purge
  rw [after_get_bind, after_bind, ask_apply]
  cases s.store.trimmed project s.settings.retentionCount with
  | error failure => rfl
  | ok result =>
    dsimp only
    rw [after_set_bind]
    split
    · rfl
    · rfl

end Purge

section Dispatch

variable {configuration : Configuration} {subject : Subject} {supplier : Action Payload}
  {payload : Payload} {deliveries : List Delivery} {s t v : Service}

theorem dispatch_of_supplied (hw : configuration.webhooks subject ≠ [])
    (h : supplier s = .ok payload t) :
    dispatch configuration subject supplier s =
      (deliverAll payload (configuration.webhooks subject) >>= fun deliveries =>
        purge subject.project >>= fun _ => pure deliveries) t := by
  unfold dispatch
  cases webhooks : configuration.webhooks subject with
  | nil => exact absurd webhooks hw
  | cons w rest => exact bind_ok h

theorem dispatch_of_refused {failure : Failure} (hw : configuration.webhooks subject ≠ [])
    (h : supplier s = .error failure t) :
    dispatch configuration subject supplier s = .error failure t := by
  unfold dispatch
  cases webhooks : configuration.webhooks subject with
  | nil => exact absurd webhooks hw
  | cons w rest =>
    dsimp only
    rw [bind_apply, h]

theorem dispatch_of_delivered (hw : configuration.webhooks subject ≠ [])
    (h : supplier s = .ok payload t)
    (all : DeliveredAll payload (configuration.webhooks subject) deliveries t v)
    (fits : fitsColumn t.settings.retentionCount = true) :
    ∃ log, dispatch configuration subject supplier s =
      .ok deliveries { v.trimming subject.project with log } := by
  have same : v.settings = t.settings := (recorded_of_delivered all).settings
  rw [← same] at fits
  obtain ⟨removed, log, trimmed⟩ := purge_of_fits fits subject.project
  refine ⟨log, ?_⟩
  rw [dispatch_of_supplied hw h, bind_ok (deliverAll_of_delivered all), bind_ok trimmed]
  rfl

theorem dispatch_of_stops {before after : List Webhook} {w : Webhook} {failure : Failure}
    {observed : List Delivery} (h : supplier s = .ok payload t)
    (split : configuration.webhooks subject = before ++ w :: after)
    (all : DeliveredAll payload before deliveries t v)
    (stops : w.Stops payload v failure observed) :
    ∃ u, dispatch configuration subject supplier s = .error failure u ∧
      u.calls = v.calls ++ [w.request payload v.settings.timeoutSeconds] ∧ u.store = v.store ∧
      u.metrics = observed.foldl Metrics.observing v.metrics := by
  have hw : configuration.webhooks subject ≠ [] := by
    rw [split]
    exact List.append_ne_nil_of_right_ne_nil before (List.cons_ne_nil w after)
  obtain ⟨u, hu, effects⟩ := deliverAll_of_stops all stops after
  refine ⟨u, ?_, effects⟩
  rw [dispatch_of_supplied hw h, split, bind_apply, hu]

theorem calls_dispatch_of_supplied (hooks : configuration.webhooks subject ≠ [])
    (h : supplier s = .ok payload t) :
    ∃ told, told ≠ [] ∧ told <+: configuration.webhooks subject ∧
      ((dispatch configuration subject supplier).after s).calls =
        t.calls ++ told.map (·.request payload t.settings.timeoutSeconds) := by
  obtain ⟨deliveries, v, all⟩ | ⟨before, w, rest, deliveries, v, failure, observed, split, all,
    stops⟩ :=
    delivered_or_stops payload (configuration.webhooks subject) t
  · refine ⟨_, hooks, List.prefix_rfl, ?_⟩
    have purged : (dispatch configuration subject supplier).after s =
        (purge subject.project >>= fun _ => pure deliveries).after v := by
      rw [after, dispatch_of_supplied hooks h, bind_ok (deliverAll_of_delivered all)]
      rfl
    rw [purged, after_bind_pure, calls_purge, (recorded_of_delivered all).calls]
  · obtain ⟨u, stopped, calls, -⟩ := dispatch_of_stops h split all stops
    have recorded := recorded_of_delivered all
    refine ⟨before ++ [w], by simp, ⟨rest, by rw [split, List.append_assoc]; rfl⟩, ?_⟩
    rw [after, stopped]
    dsimp only
    rw [calls, recorded.calls, recorded.settings, List.map_append, List.append_assoc]
    rfl

end Dispatch

section Effect

variable (configuration : Configuration) (subject : Subject) (supplier : Action Payload)
  (s : Service)

theorem dispatch_effect :
    (configuration.webhooks subject = [] →
      dispatch configuration subject supplier s = .ok [] s) ∧
    (configuration.webhooks subject ≠ [] →
      (∀ failure t, supplier s = .error failure t →
        dispatch configuration subject supplier s = .error failure t) ∧
      ∀ payload t, supplier s = .ok payload t →
        (∀ deliveries v, fitsColumn t.settings.retentionCount = true →
          DeliveredAll payload (configuration.webhooks subject) deliveries t v →
          ∃ u rows, dispatch configuration subject supplier s = .ok deliveries u ∧
            ToldBy t.network t.calls.length payload (configuration.webhooks subject)
              deliveries ∧
            u.calls = t.calls ++ (configuration.webhooks subject).map
              (·.request payload t.settings.timeoutSeconds) ∧
            Records deliveries rows ∧ rows.map (·.webhook) = configuration.webhooks subject ∧
            u.store = (t.store.addingDeliveries rows).purged subject.project
              (keptCount t.settings.retentionCount) ∧
            u.metrics = (deliveries.foldl Metrics.observing t.metrics).pruning
              ((t.store.addingDeliveries rows).deliveries.length - u.store.deliveries.length)) ∧
        (∀ before w after deliveries v failure observed,
          configuration.webhooks subject = before ++ w :: after →
          DeliveredAll payload before deliveries t v → w.Stops payload v failure observed →
          ∃ u rows, dispatch configuration subject supplier s = .error failure u ∧
            u.calls = t.calls ++ (before ++ [w]).map
              (·.request payload t.settings.timeoutSeconds) ∧
            Records deliveries rows ∧ rows.map (·.webhook) = before ∧
            u.store = t.store.addingDeliveries rows ∧
            u.metrics = (deliveries ++ observed).foldl Metrics.observing t.metrics) ∧
        ((∃ deliveries v, DeliveredAll payload (configuration.webhooks subject) deliveries t v) ∨
          ∃ before w after deliveries v failure observed,
            configuration.webhooks subject = before ++ w :: after ∧
            DeliveredAll payload before deliveries t v ∧ w.Stops payload v failure observed)) := by
  refine ⟨fun empty => ?_, fun hooks =>
    ⟨fun failure t refused => dispatch_of_refused hooks refused, ?_⟩⟩
  · rw [dispatch, empty]
    rfl
  intro payload t supplied
  refine ⟨?_, ?_, delivered_or_stops payload _ t⟩
  · intro deliveries v fits all
    obtain ⟨log, told⟩ := dispatch_of_delivered hooks supplied all fits
    have recorded := recorded_of_delivered all
    obtain ⟨rows, store, records, webhooks⟩ := recorded.rows
    refine ⟨_, rows, told, recorded.told, recorded.calls, records, webhooks, ?_, ?_⟩
    · dsimp only [Service.trimming]
      rw [store, recorded.settings]
    · dsimp only [Service.trimming]
      rw [store, recorded.settings, recorded.metrics]
  · intro before w after deliveries v failure observed split all stops
    obtain ⟨u, stopped, calls, store, metrics⟩ := dispatch_of_stops supplied split all stops
    have recorded := recorded_of_delivered all
    obtain ⟨rows, stored, records, webhooks⟩ := recorded.rows
    refine ⟨u, rows, stopped, ?_, records, webhooks, store.trans stored, ?_⟩
    · rw [calls, recorded.calls, recorded.settings, List.map_append, List.append_assoc]
      rfl
    · rw [metrics, recorded.metrics, List.foldl_append]

end Effect

def twoHooks : Configuration where
  values := [("sonar.webhooks.global", "a,b"), ("sonar.webhooks.global.a.name", "first"),
    ("sonar.webhooks.global.a.url", "http://hooks.example.com"),
    ("sonar.webhooks.global.b.name", "second"),
    ("sonar.webhooks.global.b.url", "http://hooks.example.com")]

def cancelling : Service where
  network := { endpoint
    | 0, _ => {}
    | _, _ => { fault := some .cancelled } }

theorem dispatch_effect_cancelled :
    let subject : Subject := ⟨"p", some "t", some (.plain "a")⟩
    let first : Webhook := ⟨subject, "first", "http://hooks.example.com"⟩
    let second : Webhook := ⟨subject, "second", "http://hooks.example.com"⟩
    ∃ d v, DeliveredAll ⟨"project", "body"⟩ [first] [d] cancelling v ∧
      second.Stops ⟨"project", "body"⟩ v .cancelled [] ∧
      ∃ u rows, dispatch twoHooks subject (pure ⟨"project", "body"⟩) cancelling =
          .error .cancelled u ∧
        u.calls.map (·.url) = ["http://hooks.example.com", "http://hooks.example.com"] ∧
        Records [d] rows ∧ u.store.deliveries = rows ∧
        u.store.deliveries.map (·.webhook) = [first] := by
  intro subject first second
  let payload : Payload := ⟨"project", "body"⟩
  let d : Delivery := ⟨first, payload, Calendar.noon, some 200, some 0, none⟩
  have webhooks : twoHooks.webhooks subject = [first] ++ second :: [] := by decide +kernel
  have hooks : twoHooks.webhooks subject ≠ [] := by decide +kernel
  have came : (match first.call payload cancelling with
      | .ok d _ => some d
      | .error _ _ => none) = some d := by decide +kernel
  have written : (({} : Store).withDelivery (deliveryUuid 1) d).isOk = true := by decide +kernel
  cases called : first.call payload cancelling with
  | error failure t =>
    rw [called] at came
    cases came
  | ok made t =>
    rw [called] at came
    cases came
    obtain ⟨-, log, rfl⟩ := Webhook.call_eq_ok called
    cases recorded : ({} : Store).withDelivery (deliveryUuid 1) d with
    | error failure =>
      rw [recorded] at written
      cases written
    | ok store =>
      let v := Service.recording { cancelling.calling first payload with log } d store
      have all : DeliveredAll payload [first] [d] cancelling v := .cons called recorded (.nil v)
      have stops : second.Stops payload v .cancelled [] := stops_of_cancelled second payload rfl
      obtain ⟨-, stopping, -⟩ :=
        (dispatch_effect twoHooks subject (pure payload) cancelling).2 hooks |>.2 payload _ rfl
      obtain ⟨u, rows, told, calls, records, same, left, -⟩ :=
        stopping [first] second [] [d] v _ _ webhooks all stops
      have rowsLeft : u.store.deliveries = rows := by rw [left]; rfl
      refine ⟨d, v, all, stops, u, rows, told, ?_, records, rowsLeft, rowsLeft ▸ same⟩
      rw [calls]
      rfl

end AnalysisWebhooks
