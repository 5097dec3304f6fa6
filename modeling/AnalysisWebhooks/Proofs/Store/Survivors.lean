import AnalysisWebhooks.Proofs.Store.Rowids

namespace AnalysisWebhooks

open DeliveryStep Calendar

def history (s : Store) (steps : List DeliveryStep) (project : String) :
    List (DeliveryRow String String) :=
  (listing ((s.deliveries ++ recorded steps).filter (·.project = project)).zipIdx).map (·.1)

theorem history_eq_newestFirst (s : Store) (steps : List DeliveryStep) (project : String) :
    history s steps project =
      newestFirst ((s.deliveries ++ recorded steps).filter (·.project = project)) := by
  rw [history, map_listing (rising_zipIdx _ 0), List.zipIdx_map_fst]

theorem deliveriesBut_trimmed {s t : Store} {project : String} {retention : Int} {n : Nat}
    (h : s.trimmed project retention = .ok (n, t)) :
    t.deliveriesBut project = s.deliveriesBut project := by
  rw [trimmed_eq_ok h, Store.deliveriesBut_purged]

theorem endsTrimmed_append (steps : List DeliveryStep) (project : String) :
    EndsTrimmed (steps ++ [trim project]) project := by
  simp [EndsTrimmed, DeliveryStep.project]

theorem newest_survive {retention : Int} {s t : Store} {steps : List DeliveryStep}
    (distinct : s.DistinctDeliveries) (ran : run retention s steps = .ok t) :
    t.deliveries.Sublist (s.deliveries ++ recorded steps) ∧
    (∀ project, EndsTrimmed steps project →
      newestFirst (t.deliveriesOf project) =
        (history s steps project).take (keptCount retention) ∧
      ∀ u, run retention s (steps.filter isRecord ++ [trim project]) = .ok u →
        newestFirst (u.deliveriesOf project) = newestFirst (t.deliveriesOf project)) ∧
    (∀ (v w : Store) project n, v.trimmed project retention = .ok (n, w) →
      w.deliveriesBut project = v.deliveriesBut project) ∧
    (∀ table : RowTable, table.rows = s.deliveries →
      ∃ left, table.run retention steps = .ok left ∧ left.rows = t.deliveries) := by
  refine ⟨((FirstRowsLeft.refl distinct).run ran).unchanged, ?_, ?_, ?_⟩
  · intro project hlast
    have exact_rows := newestFirst_run distinct ran hlast
    refine ⟨by rw [exact_rows, history_eq_newestFirst], ?_⟩
    intro u hu
    have same : recorded (steps.filter isRecord ++ [trim project]) = recorded steps := by
      rw [recorded_append, recorded_filter_isRecord, recorded_cons]
      exact List.append_nil _
    rw [exact_rows, newestFirst_run distinct hu (endsTrimmed_append _ project), same]
  · intro v w project n h
    exact deliveriesBut_trimmed h
  · intro table h
    exact RowTable.run_eq_ok h ran

def sampleDelivery (project : String) (time : Moment) : Delivery where
  webhook := ⟨⟨project, some "task", some "analysis"⟩, "hook", "http://hook.example.com"⟩
  payload := ⟨project, "{}"⟩
  time
  httpStatus := some 200
  durationMs := some 5
  error := none

def sampleRow (uuid project createdAt : String) : DeliveryRow String String :=
  ⟨uuid, project, none, none, "hook", "http://hook.example.com", false, none, none, "{}", none,
    createdAt⟩

def sampleStore : Store where
  deliveries := [sampleRow "a" "p" "2026-10-19T00:00:00.000000Z", sampleRow "b" "q" "2026",
    sampleRow "c" "p" "2026-10-17T00:00:00.000000Z"]

def sampleSteps : List DeliveryStep :=
  [.record "d" (sampleDelivery "p" noon), .trim "p", .record "e" (sampleDelivery "q" noon),
    .record "f" (sampleDelivery "p" noon), .trim "p"]

theorem newest_survive_out_of_order : sampleStore.DistinctDeliveries ∧
    ∃ t, run 2 sampleStore sampleSteps = .ok t ∧
      (newestFirst (t.deliveriesOf "p")).map (·.uuid) = ["a", "f"] ∧
      newestFirst (t.deliveriesOf "p") =
        (history sampleStore sampleSteps "p").take (keptCount 2) := by
  have distinct : sampleStore.DistinctDeliveries := by decide +kernel
  refine ⟨distinct, _, rfl, by decide +kernel, ?_⟩
  exact ((newest_survive distinct rfl).2.1 "p" (by decide +kernel)).1

end AnalysisWebhooks
