import AnalysisWebhooks.Proofs.Store.Retention

namespace AnalysisWebhooks

structure RowTable where
  entries : List (Numbered String)
  rising : Rising entries

namespace RowTable

def rows (t : RowTable) : List (DeliveryRow String String) :=
  t.entries.map (·.1)

def nextNumber (t : RowTable) : Nat :=
  t.entries.foldr (fun e n => max e.2 n) 0 + 1

theorem le_highest {entries : List (Numbered String)} {e : Numbered String} (h : e ∈ entries) :
    e.2 ≤ entries.foldr (fun e n => max e.2 n) 0 := by
  induction entries with
  | nil => cases h
  | cons f rest ih =>
    rw [List.foldr_cons]
    rcases List.mem_cons.1 h with rfl | h
    · exact Nat.le_max_left _ _
    · exact Nat.le_trans (ih h) (Nat.le_max_right _ _)

theorem lt_nextNumber {t : RowTable} {e : Numbered String} (h : e ∈ t.entries) :
    e.2 < t.nextNumber :=
  Nat.lt_succ_of_le (le_highest h)

def record (t : RowTable) (row : DeliveryRow String String) : RowTable where
  entries := t.entries ++ [(row, t.nextNumber)]
  rising := List.pairwise_append.2
    ⟨t.rising, List.pairwise_singleton _ _, fun e he f hf => by
      rw [List.mem_singleton.1 hf]
      exact lt_nextNumber he⟩

def newestOf (t : RowTable) (project : String) (count : Nat) : List String :=
  ((listing (t.entries.filter (·.1.project = project))).take count).map (·.1.uuid)

def purged (t : RowTable) (project : String) (count : Nat) : RowTable where
  entries := t.entries.filter fun e =>
    e.1.project ≠ project || (t.newestOf project count).contains e.1.uuid
  rising := t.rising.filter _

def apply (retention : Int) (t : RowTable) : DeliveryStep → Except Failure RowTable
  | .record uuid delivery => do
    let row ← DeliveryRow.ofDelivery uuid delivery
    if t.rows.any (·.uuid = uuid) then throw (.duplicate "webhook_deliveries" ["uuid"])
    return t.record row
  | .trim project => (Store.rowLimit retention).map (t.purged project)

def run (retention : Int) (t : RowTable) : List DeliveryStep → Except Failure RowTable
  | [] => .ok t
  | step :: rest => do run retention (← t.apply retention step) rest

theorem rows_record (t : RowTable) (row : DeliveryRow String String) :
    (t.record row).rows = t.rows ++ [row] := by
  simp [rows, record]

theorem newestOf_eq {t : RowTable} {s : Store} (h : t.rows = s.deliveries) (project : String)
    (count : Nat) : t.newestOf project count = s.newestOf project count := by
  have hrows : (t.entries.filter (·.1.project = project)).map (·.1) = s.deliveriesOf project := by
    rw [Store.deliveriesOf, ← h, rows, List.filter_map]
    rfl
  have hlist := map_listing (t.rising.filter (·.1.project = project))
  rw [hrows] at hlist
  rw [newestOf, Store.newestOf, ← Store.deliveriesOf, ← hlist, ← List.map_take, List.map_map]
  rfl

theorem rows_purged {t : RowTable} {s : Store} (h : t.rows = s.deliveries) (project : String)
    (count : Nat) : (t.purged project count).rows = (s.purged project count).deliveries := by
  rw [Store.purged_deliveries, ← h, ← newestOf_eq h, rows, rows, List.filter_map]
  rfl

theorem apply_eq_ok {retention : Int} {t : RowTable} {s u : Store} {step : DeliveryStep}
    (h : t.rows = s.deliveries) (hu : step.apply retention s = .ok u) :
    ∃ v, t.apply retention step = .ok v ∧ v.rows = u.deliveries := by
  cases step with
  | record uuid delivery =>
    obtain ⟨row, hrow, hnew, rfl⟩ := withDelivery_eq_ok.1 hu
    have hfresh : ¬ t.rows.any (·.uuid = uuid) = true := by simpa [h] using hnew
    refine ⟨t.record row, ?_, by rw [rows_record, h]⟩
    simp [apply, hrow, hfresh, bind, Except.bind, pure, Except.pure]
  | trim project =>
    obtain ⟨⟨n, w⟩, hw, rfl⟩ := map_eq_ok.1 hu
    obtain ⟨count, hcount, hw⟩ := bind_eq_ok.1 hw
    cases hw
    exact ⟨t.purged project count, map_eq_ok.2 ⟨count, hcount, rfl⟩, rows_purged h project count⟩

theorem run_eq_ok {retention : Int} {t : RowTable} {s u : Store} {steps : List DeliveryStep}
    (h : t.rows = s.deliveries) (hu : DeliveryStep.run retention s steps = .ok u) :
    ∃ v, t.run retention steps = .ok v ∧ v.rows = u.deliveries := by
  induction steps generalizing t s with
  | nil =>
    cases hu
    exact ⟨t, rfl, h⟩
  | cons step rest ih =>
    obtain ⟨w, hw, hu⟩ := bind_eq_ok.1 hu
    obtain ⟨x, hx, hrows⟩ := apply_eq_ok h hw
    obtain ⟨v, hv, hvu⟩ := ih hrows hu
    exact ⟨v, bind_eq_ok.2 ⟨x, hx, hv⟩, hvu⟩

end RowTable

end AnalysisWebhooks
