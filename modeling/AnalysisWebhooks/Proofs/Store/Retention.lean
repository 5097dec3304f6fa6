import Mathlib.Data.List.Nodup
import AnalysisWebhooks.Proofs.Store.Columns
import AnalysisWebhooks.Proofs.Store.Listing

namespace AnalysisWebhooks

inductive DeliveryStep where
  | record (uuid : String) (delivery : Delivery)
  | trim (project : String)
deriving DecidableEq, Repr

namespace DeliveryStep

def project : DeliveryStep → String
  | record _ delivery => delivery.webhook.subject.project
  | trim project => project

def isRecord : DeliveryStep → Bool
  | record .. => true
  | trim _ => false

def row? : DeliveryStep → Option (DeliveryRow String String)
  | record uuid delivery => (DeliveryRow.ofDelivery uuid delivery).toOption
  | trim _ => none

def apply (retention : Int) (s : Store) : DeliveryStep → Except Failure Store
  | record uuid delivery => s.withDelivery uuid delivery
  | trim project => (s.trimmed project retention).map (·.2)

def run (retention : Int) (s : Store) : List DeliveryStep → Except Failure Store
  | [] => .ok s
  | step :: rest => do run retention (← step.apply retention s) rest

def recorded (steps : List DeliveryStep) : List (DeliveryRow String String) :=
  steps.filterMap row?

theorem recorded_cons (step : DeliveryStep) (rest : List DeliveryStep) :
    recorded (step :: rest) = step.row?.toList ++ recorded rest := by
  rw [recorded, List.filterMap_cons]
  cases step.row? <;> rfl

theorem recorded_append (a b : List DeliveryStep) : recorded (a ++ b) = recorded a ++ recorded b :=
  List.filterMap_append

theorem recorded_filter_isRecord (steps : List DeliveryStep) :
    recorded (steps.filter isRecord) = recorded steps := by
  induction steps with
  | nil => rfl
  | cons step rest ih => cases step <;> simp [List.filter_cons, isRecord, recorded_cons, row?, ih]

end DeliveryStep

def keptCount (retention : Int) : Nat :=
  (max 1 retention).toNat

namespace Store

theorem rowLimit_of_lt {limit : Int} (h : limit < columnBound) :
    rowLimit limit = .ok (keptCount limit) := by
  have fits : fitsColumn (max 1 limit) = true := by
    rw [fitsColumn_iff]
    rw [columnBound] at h ⊢
    omega
  rw [rowLimit, columnNumber, fits]
  rfl

theorem rowLimit_eq_ok {limit : Int} {count : Nat} (h : rowLimit limit = .ok count) :
    count = keptCount limit := by
  unfold rowLimit columnNumber at h
  split at h
  · cases h
    rfl
  · cases h

def deliveriesOf (s : Store) (project : String) : List (DeliveryRow String String) :=
  s.deliveries.filter (·.project = project)

def deliveriesBut (s : Store) (project : String) : List (DeliveryRow String String) :=
  s.deliveries.filter (·.project ≠ project)

def DistinctDeliveries (s : Store) : Prop :=
  (s.deliveries.map (·.uuid)).Nodup

instance (s : Store) : Decidable s.DistinctDeliveries :=
  inferInstanceAs (Decidable (List.Nodup _))

end Store

theorem withDelivery_eq_ok {s t : Store} {uuid : String} {d : Delivery} :
    s.withDelivery uuid d = .ok t ↔ ∃ row, DeliveryRow.ofDelivery uuid d = .ok row ∧
      (∀ r ∈ s.deliveries, r.uuid ≠ uuid) ∧ t = { s with deliveries := s.deliveries ++ [row] } := by
  unfold Store.withDelivery
  cases hrow : DeliveryRow.ofDelivery uuid d with
  | error f => simp [bind, Except.bind]
  | ok row =>
    by_cases hdup : s.deliveries.any (·.uuid = uuid) = true
    · have hnot : ¬ ∀ r ∈ s.deliveries, r.uuid ≠ uuid := by simpa using hdup
      simp [bind, Except.bind, hdup, hnot, throw, throwThe, MonadExceptOf.throw]
    · have hnew : ∀ r ∈ s.deliveries, r.uuid ≠ uuid := by simpa using hdup
      simp only [bind, Except.bind, hdup, pure, Except.pure]
      constructor
      · intro h
        cases h
        exact ⟨row, rfl, hnew, rfl⟩
      · rintro ⟨row', hrow', -, rfl⟩
        cases hrow'
        rfl

theorem trimmed_eq_ok {s t : Store} {project : String} {retention : Int} {n : Nat}
    (h : s.trimmed project retention = .ok (n, t)) :
    t = s.purged project (keptCount retention) := by
  obtain ⟨count, hcount, h⟩ := bind_eq_ok.1 h
  cases h
  rw [Store.rowLimit_eq_ok hcount]

theorem filter_take_key {α κ : Type} [DecidableEq κ] (key : α → κ) {l : List α}
    (h : (l.map key).Nodup) (k : Nat) :
    l.filter (fun x => ((l.take k).map key).contains (key x)) = l.take k := by
  have hsplit : (((l.take k).map key) ++ ((l.drop k).map key)).Nodup := by
    rwa [← List.map_append, List.take_append_drop]
  obtain ⟨-, -, hdisjoint⟩ := List.nodup_append.1 hsplit
  conv => lhs; arg 2; rw [← List.take_append_drop k l]
  rw [List.filter_append]
  have hfirst : (l.take k).filter (fun x => ((l.take k).map key).contains (key x)) = l.take k :=
    List.filter_eq_self.2 fun x hx => List.contains_iff_mem.2 (List.mem_map_of_mem hx)
  have hlast : (l.drop k).filter (fun x => ((l.take k).map key).contains (key x)) = [] := by
    refine List.filter_eq_nil_iff.2 fun x hx hin => ?_
    exact hdisjoint _ (List.contains_iff_mem.1 hin) _ (List.mem_map_of_mem hx) rfl
  rw [hfirst, hlast, List.append_nil]

namespace Store

variable {s t : Store} {project : String}

theorem purged_deliveries (s : Store) (project : String) (k : Nat) :
    (s.purged project k).deliveries = s.deliveries.filter fun row =>
      row.project ≠ project || (s.newestOf project k).contains row.uuid := rfl

theorem purged_sublist (s : Store) (project : String) (k : Nat) :
    (s.purged project k).deliveries.Sublist s.deliveries :=
  List.filter_sublist

theorem deliveriesBut_purged (s : Store) (project : String) (k : Nat) :
    (s.purged project k).deliveriesBut project = s.deliveriesBut project := by
  rw [deliveriesBut, purged_deliveries, List.filter_filter, deliveriesBut]
  refine List.filter_congr fun row _ => ?_
  by_cases h : row.project = project <;> simp [h]

theorem deliveriesOf_purged_other (s : Store) {project other : String} (k : Nat)
    (h : other ≠ project) : (s.purged project k).deliveriesOf other = s.deliveriesOf other := by
  rw [deliveriesOf, purged_deliveries, List.filter_filter, deliveriesOf]
  refine List.filter_congr fun row _ => ?_
  by_cases hr : row.project = other
  · simp [hr, h]
  · simp [hr]

theorem DistinctDeliveries.newestFirst (h : s.DistinctDeliveries) (project : String) :
    ((newestFirst (s.deliveriesOf project)).map (·.uuid)).Nodup := by
  have hsub : ((s.deliveriesOf project).map (·.uuid)).Nodup :=
    h.sublist (List.filter_sublist.map _)
  exact hsub.perm ((newestFirst_perm _).map _).symm

theorem DistinctDeliveries.purged (h : s.DistinctDeliveries) (project : String) (k : Nat) :
    (s.purged project k).DistinctDeliveries :=
  h.sublist ((purged_sublist s project k).map _)

theorem DistinctDeliveries.recorded {row : DeliveryRow String String} (h : s.DistinctDeliveries)
    (hnew : ∀ r ∈ s.deliveries, r.uuid ≠ row.uuid) :
    ({ s with deliveries := s.deliveries ++ [row] } : Store).DistinctDeliveries := by
  have absent : row.uuid ∉ s.deliveries.map (·.uuid) := fun hmem => by
    obtain ⟨old, hold, same⟩ := List.mem_map.1 hmem
    exact hnew old hold same
  rw [DistinctDeliveries, List.map_append, List.map_singleton, ← List.concat_eq_append]
  exact List.Nodup.concat absent h

theorem newestFirst_purged (h : s.DistinctDeliveries) (project : String) (k : Nat) :
    newestFirst ((s.purged project k).deliveriesOf project) =
      (newestFirst (s.deliveriesOf project)).take k := by
  have hkept : (s.purged project k).deliveriesOf project =
      (s.deliveriesOf project).filter fun row => (s.newestOf project k).contains row.uuid := by
    rw [deliveriesOf, purged_deliveries, List.filter_filter, deliveriesOf, List.filter_filter]
    refine List.filter_congr fun row _ => ?_
    by_cases hr : row.project = project <;> simp [hr]
  rw [hkept, ← filter_newestFirst]
  exact filter_take_key _ (h.newestFirst project) k

end Store

open DeliveryStep

structure FirstRowsLeft (k : Nat) (s : Store) (ever : List (DeliveryRow String String)) : Prop where
  distinct : s.DistinctDeliveries
  unchanged : s.deliveries.Sublist ever
  first : ∀ project, (newestFirst (s.deliveriesOf project)).take k =
    (newestFirst (ever.filter (·.project = project))).take k

namespace FirstRowsLeft

variable {k : Nat} {s t : Store} {ever : List (DeliveryRow String String)}

theorem refl (h : s.DistinctDeliveries) : FirstRowsLeft k s s.deliveries :=
  ⟨h, .refl _, fun _ => rfl⟩

theorem recorded {row : DeliveryRow String String} (h : FirstRowsLeft k s ever)
    (hnew : ∀ r ∈ s.deliveries, r.uuid ≠ row.uuid) :
    FirstRowsLeft k { s with deliveries := s.deliveries ++ [row] } (ever ++ [row]) where
  distinct := h.distinct.recorded hnew
  unchanged := h.unchanged.append (.refl _)
  first project := by
    simp only [Store.deliveriesOf, List.filter_append]
    by_cases hp : row.project = project
    · rw [List.filter_cons_of_pos (by simpa using hp), List.filter_nil, take_newestFirst_append,
        take_newestFirst_append, ← h.first project]
      rfl
    · rw [List.filter_cons_of_neg (by simpa using hp), List.filter_nil, List.append_nil,
        List.append_nil]
      exact h.first project

theorem purged (h : FirstRowsLeft k s ever) (project : String) :
    FirstRowsLeft k (s.purged project k) ever where
  distinct := h.distinct.purged project k
  unchanged := (s.purged_sublist project k).trans h.unchanged
  first other := by
    by_cases hp : other = project
    · rw [hp, Store.newestFirst_purged h.distinct, List.take_take, Nat.min_self]
      exact h.first project
    · rw [Store.deliveriesOf_purged_other s k hp]
      exact h.first other

theorem apply {retention : Int} {step : DeliveryStep}
    (h : FirstRowsLeft (keptCount retention) s ever)
    (ht : step.apply retention s = .ok t) :
    FirstRowsLeft (keptCount retention) t (ever ++ step.row?.toList) := by
  cases step with
  | record uuid delivery =>
    obtain ⟨row, hrow, hnew, rfl⟩ := withDelivery_eq_ok.1 ht
    rw [row?, hrow]
    rw [← (project_of_ofDelivery hrow).1] at hnew
    exact h.recorded hnew
  | trim project =>
    obtain ⟨⟨n, u⟩, hu, rfl⟩ := map_eq_ok.1 ht
    rw [trimmed_eq_ok hu, row?, Option.toList_none, List.append_nil]
    exact h.purged project

theorem run {retention : Int} {steps : List DeliveryStep}
    (h : FirstRowsLeft (keptCount retention) s ever)
    (ht : DeliveryStep.run retention s steps = .ok t) :
    FirstRowsLeft (keptCount retention) t (ever ++ DeliveryStep.recorded steps) := by
  induction steps generalizing s ever with
  | nil =>
    cases ht
    simpa [DeliveryStep.recorded] using h
  | cons step rest ih =>
    obtain ⟨u, hu, ht⟩ := bind_eq_ok.1 ht
    rw [recorded_cons, ← List.append_assoc]
    exact ih (h.apply hu) ht

end FirstRowsLeft

namespace DeliveryStep

variable {retention : Int} {s t : Store}

theorem run_append {a b : List DeliveryStep} :
    run retention s (a ++ b) = .ok t ↔
      ∃ u, run retention s a = .ok u ∧ run retention u b = .ok t := by
  induction a generalizing s with
  | nil => simp [run]
  | cons step rest ih =>
    simp only [List.cons_append, run, bind_eq_ok, ih]
    constructor
    · rintro ⟨u, hu, v, hv, ht⟩
      exact ⟨v, ⟨u, hu, hv⟩, ht⟩
    · rintro ⟨v, ⟨u, hu, hv⟩, ht⟩
      exact ⟨u, hu, v, hv, ht⟩

theorem apply_frame {step : DeliveryStep} (h : step.apply retention s = .ok t) :
    t = { s with deliveries := t.deliveries } := by
  cases step with
  | record uuid delivery =>
    obtain ⟨row, -, -, rfl⟩ := withDelivery_eq_ok.1 h
    rfl
  | trim project =>
    obtain ⟨⟨n, u⟩, hu, rfl⟩ := map_eq_ok.1 h
    rw [trimmed_eq_ok hu]
    rfl

theorem run_frame {steps : List DeliveryStep} (h : run retention s steps = .ok t) :
    t = { s with deliveries := t.deliveries } := by
  induction steps generalizing s with
  | nil =>
    cases h
    rfl
  | cons step rest ih =>
    obtain ⟨u, hu, ht⟩ := bind_eq_ok.1 h
    have hframe := ih ht
    rw [apply_frame hu] at hframe
    exact hframe

theorem mem_of_apply {row : DeliveryRow String String} {step : DeliveryStep}
    (h : step.apply retention s = .ok t) (hrow : row ∈ t.deliveries) :
    row ∈ s.deliveries ∨ row ∈ step.row? := by
  cases step with
  | record uuid delivery =>
    obtain ⟨new, hnew, -, rfl⟩ := withDelivery_eq_ok.1 h
    rw [row?, hnew]
    simpa [Except.toOption, eq_comm] using hrow
  | trim project =>
    obtain ⟨⟨removed, u⟩, hu, rfl⟩ := map_eq_ok.1 h
    rw [trimmed_eq_ok hu] at hrow
    exact .inl ((Store.purged_sublist s project _).subset hrow)

theorem mem_of_run {row : DeliveryRow String String} {steps : List DeliveryStep}
    (h : run retention s steps = .ok t) (hrow : row ∈ t.deliveries) :
    row ∈ s.deliveries ∨ row ∈ recorded steps := by
  induction steps generalizing s with
  | nil =>
    cases h
    exact .inl hrow
  | cons step rest ih =>
    obtain ⟨u, hu, h⟩ := bind_eq_ok.1 h
    rw [recorded_cons, List.mem_append, Option.mem_toList]
    rcases ih h with old | new
    · exact (mem_of_apply hu old).imp_right .inl
    · exact .inr (.inr new)

theorem deliveriesOf_apply {project : String} {step : DeliveryStep} (h : step.project ≠ project)
    (ht : step.apply retention s = .ok t) : t.deliveriesOf project = s.deliveriesOf project := by
  cases step with
  | record uuid delivery =>
    obtain ⟨row, hrow, -, rfl⟩ := withDelivery_eq_ok.1 ht
    have hp : row.project ≠ project := (project_of_ofDelivery hrow).2 ▸ h
    simp [Store.deliveriesOf, hp]
  | trim other =>
    obtain ⟨⟨n, u⟩, hu, rfl⟩ := map_eq_ok.1 ht
    rw [trimmed_eq_ok hu]
    exact Store.deliveriesOf_purged_other s _ (Ne.symm h)

theorem deliveriesOf_run {project : String} {steps : List DeliveryStep}
    (h : ∀ step ∈ steps, step.project ≠ project) (ht : run retention s steps = .ok t) :
    t.deliveriesOf project = s.deliveriesOf project := by
  induction steps generalizing s with
  | nil =>
    cases ht
    rfl
  | cons step rest ih =>
    obtain ⟨hstep, hrest⟩ := List.forall_mem_cons.1 h
    obtain ⟨u, hu, ht⟩ := bind_eq_ok.1 ht
    rw [ih hrest ht, deliveriesOf_apply hstep hu]

def EndsTrimmed (steps : List DeliveryStep) (project : String) : Prop :=
  (steps.filter (·.project = project)).getLast? = some (trim project)

instance (steps : List DeliveryStep) (project : String) : Decidable (EndsTrimmed steps project) :=
  inferInstanceAs (Decidable (_ = _))

theorem EndsTrimmed.split {steps : List DeliveryStep} {project : String}
    (h : EndsTrimmed steps project) :
    ∃ before after, steps = before ++ trim project :: after ∧
      ∀ step ∈ after, step.project ≠ project := by
  obtain ⟨front, hfront⟩ := List.getLast?_eq_some_iff.1 h
  obtain ⟨a, b, rfl, -, hb⟩ := List.filter_eq_append_iff.1 hfront
  obtain ⟨c, d, rfl, -, -, hd⟩ := List.filter_eq_cons_iff.1 hb
  refine ⟨a ++ c, d, by simp, fun step hstep => ?_⟩
  simpa using List.filter_eq_nil_iff.1 hd step hstep

theorem newestFirst_run {steps : List DeliveryStep} {project : String} (hs : s.DistinctDeliveries)
    (ht : run retention s steps = .ok t) (h : EndsTrimmed steps project) :
    newestFirst (t.deliveriesOf project) =
      (newestFirst ((s.deliveries ++ recorded steps).filter (·.project = project))).take
        (keptCount retention) := by
  obtain ⟨before, after, rfl, hafter⟩ := h.split
  obtain ⟨u, hu, ht⟩ := run_append.1 ht
  obtain ⟨v, hv, ht⟩ := bind_eq_ok.1 ht
  obtain ⟨⟨n, w⟩, hw, rfl⟩ := map_eq_ok.1 hv
  have left : FirstRowsLeft (keptCount retention) u (s.deliveries ++ recorded before) :=
    (FirstRowsLeft.refl hs).run hu
  have untouched : (recorded after).filter (·.project = project) = [] := by
    refine List.filter_eq_nil_iff.2 fun row hrow => ?_
    obtain ⟨step, hstep, hrow⟩ := List.mem_filterMap.1 hrow
    cases step with
    | trim _ => cases hrow
    | record uuid delivery =>
      have hrow : DeliveryRow.ofDelivery uuid delivery = .ok row := by
        cases hd : DeliveryRow.ofDelivery uuid delivery <;> simp_all [row?, Except.toOption]
      have := hafter _ hstep
      simpa [(project_of_ofDelivery hrow).2, DeliveryStep.project] using this
  rw [deliveriesOf_run hafter ht, trimmed_eq_ok hw, Store.newestFirst_purged left.distinct,
    left.first project, recorded_append, recorded_cons, row?, Option.toList_none, List.nil_append,
    ← List.append_assoc, List.filter_append _ (recorded after), untouched, List.append_nil]

end DeliveryStep

end AnalysisWebhooks
