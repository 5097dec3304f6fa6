import AnalysisWebhooks.Proofs.Outcome
import AnalysisWebhooks.Service.Basic

namespace AnalysisWebhooks

namespace Action

variable {α β : Type} {x : Action α} {f : α → Action β} {s t : Service}

def after (x : Action α) (s : Service) : Service :=
  match x s with
  | .ok _ t => t
  | .error _ t => t

theorem bind_apply (x : Action α) (f : α → Action β) (s : Service) :
    (x >>= f) s = match x s with
      | .ok a t => f a t
      | .error failure t => .error failure t := by
  show EStateM.bind x f s = _
  unfold EStateM.bind
  cases x s <;> rfl

theorem bind_ok {a : α} (h : x s = .ok a t) : (x >>= f) s = f a t := by
  rw [bind_apply, h]

theorem exists_of_bind_ok {b : β} {u : Service} (h : (x >>= f) s = .ok b u) :
    ∃ a t, x s = .ok a t ∧ f a t = .ok b u := by
  rw [bind_apply] at h
  cases hx : x s with
  | ok a t =>
    rw [hx] at h
    exact ⟨a, t, rfl, h⟩
  | error failure t =>
    rw [hx] at h
    cases h

theorem get_bind (f : Service → Action α) (s : Service) : (get >>= f) s = f s s := rfl

theorem set_bind (t : Service) (f : PUnit → Action α) (s : Service) :
    (set t >>= f) s = f ⟨⟩ t := rfl

theorem after_bind (x : Action α) (f : α → Action β) (s : Service) :
    (x >>= f).after s = match x s with
      | .ok a t => (f a).after t
      | .error _ t => t := by
  rw [after, bind_apply]
  cases x s <;> rfl

theorem after_get_bind (f : Service → Action α) (s : Service) :
    (get >>= f).after s = (f s).after s := rfl

theorem after_set_bind (t : Service) (f : PUnit → Action α) (s : Service) :
    (set t >>= f).after s = (f ⟨⟩).after t := rfl

theorem after_bind_ok {a : α} (h : x s = .ok a t) : (x >>= f).after s = (f a).after t := by
  rw [after_bind, h]

theorem after_ok {a : α} (h : x s = .ok a t) : x.after s = t := by
  rw [after, h]

theorem orElse_apply (x : Action α) (handle : Failure → Action α) (s : Service) :
    orElse x handle s = match x s with
      | .ok a t => .ok a t
      | .error failure t =>
        if failure.isOrdinary then handle failure t else .error failure t := by
  show EStateM.tryCatch x _ s = _
  unfold EStateM.tryCatch
  cases x s with
  | ok a t => rfl
  | error failure t =>
    cases h : failure.isOrdinary <;> simp [h] <;> rfl

theorem after_orElse (x : Action α) (handle : Failure → Action α) (s : Service) :
    (orElse x handle).after s = match x s with
      | .ok _ t => t
      | .error failure t => if failure.isOrdinary then (handle failure).after t else t := by
  rw [after, orElse_apply]
  cases x s with
  | ok a t => rfl
  | error failure t =>
    cases h : failure.isOrdinary with
    | true => simp [h, after]
    | false => simp [h]

theorem after_bind_pure (x : Action α) (b : β) (s : Service) :
    (x >>= fun _ => pure b).after s = x.after s := by
  rw [after_bind, after]
  cases x s <;> rfl

theorem after_orElse_pure (x : Action α) (a : α) (s : Service) :
    (orElse x fun _ => pure a).after s = x.after s := by
  rw [after_orElse, after]
  cases x s with
  | ok b t => rfl
  | error failure t =>
    dsimp only
    split <;> rfl

theorem log_apply (level : LogLevel) (text : String) (s : Service) :
    log level text s = .ok ⟨⟩ { s with log := s.log ++ [⟨level, text⟩] } := rfl

theorem log_bind (level : LogLevel) (text : String) (f : PUnit → Action α) (s : Service) :
    (log level text >>= f) s = f ⟨⟩ { s with log := s.log ++ [⟨level, text⟩] } := rfl

theorem measure_apply (change : Metrics → Metrics) (s : Service) :
    measure change s = .ok ⟨⟩ { s with metrics := change s.metrics } := rfl

theorem obtain_apply (answer : Except Failure α) (s : Service) :
    Action.obtain answer s = match answer with
      | .ok a => .ok a s
      | .error failure => .error failure s := by
  cases answer <;> rfl

theorem after_obtain_bind (answer : Except Failure α) (f : α → Action β) (s : Service) :
    (Action.obtain answer >>= f).after s = match answer with
      | .ok a => (f a).after s
      | .error _ => s := by
  cases answer <;> rfl

theorem ask_apply (question : Store → Except Failure α) (s : Service) :
    ask question s = match question s.store with
      | .ok a => .ok a s
      | .error failure => .error failure s := by
  rw [ask, get_bind]
  cases question s.store <;> rfl

theorem change_apply (operation : Store → Except Failure Store) (s : Service) :
    change operation s = match operation s.store with
      | .ok store => .ok ⟨⟩ { s with store }
      | .error failure => .error failure s := by
  rw [change, get_bind]
  cases operation s.store <;> rfl

theorem change_bind (operation : Store → Except Failure Store) (f : PUnit → Action α)
    (s : Service) : (change operation >>= f) s = match operation s.store with
      | .ok store => f ⟨⟩ { s with store }
      | .error failure => .error failure s := by
  rw [bind_apply, change_apply]
  cases operation s.store <;> rfl

def Moves (r : Service → Service → Prop) (x : Action α) : Prop :=
  ∀ s, r s (x.after s)

section Moves

variable {r q : Service → Service → Prop} (refl : ∀ s, r s s)
  (trans : ∀ {s t u}, r s t → q t u → r s u)

include refl in
theorem moves_pure (a : α) : Moves r (pure a : Action α) :=
  fun s => refl s

include refl in
theorem moves_throw (failure : Failure) : Moves r (throw failure : Action α) :=
  fun s => refl s

include refl in
theorem moves_obtain (answer : Except Failure α) : Moves r (Action.obtain answer) := by
  intro s
  rw [after, obtain_apply]
  cases answer <;> exact refl s

include refl in
theorem moves_ask (question : Store → Except Failure α) : Moves r (ask question) :=
  fun s => moves_obtain refl (question s.store) s

omit refl trans in
theorem moves_get_bind {f : Service → Action α} (h : ∀ s, Moves r (f s)) : Moves r (get >>= f) :=
  fun s => h s s

include trans in
theorem moves_bind (hx : Moves r x) (hf : ∀ a, Moves q (f a)) : Moves r (x >>= f) := by
  intro s
  have hs := hx s
  rw [after_bind]
  rw [after] at hs
  cases h : x s with
  | ok a t =>
    rw [h] at hs
    exact trans hs (hf a t)
  | error failure t =>
    rw [h] at hs
    exact hs

include trans in
theorem moves_orElse {handle : Failure → Action α} (hx : Moves r x)
    (hh : ∀ failure, Moves q (handle failure)) : Moves r (orElse x handle) := by
  intro s
  have hs := hx s
  rw [after_orElse]
  rw [after] at hs
  cases h : x s with
  | ok a t =>
    rw [h] at hs
    exact hs
  | error failure t =>
    rw [h] at hs
    dsimp only at hs ⊢
    split
    · exact trans hs (hh failure t)
    · exact hs

end Moves

def Contained (p : Service → Prop) (x : Action α) : Prop :=
  ∀ s failure t, p s → x s = .error failure t → failure.isOrdinary = true

section Contained

variable {p : Service → Prop}

theorem contained_pure (a : α) : Contained p (pure a : Action α) := by
  intro s failure t _ h
  cases h

theorem contained_throw {failure : Failure} (h : failure.isOrdinary = true) :
    Contained p (throw failure : Action α) := by
  intro s other t _ ho
  cases ho
  exact h

theorem contained_get_bind {f : Service → Action α} (h : ∀ s, Contained p (f s)) :
    Contained p (get >>= f) :=
  fun s => h s s

theorem contained_set (u : Service) : Contained p (set u : Action PUnit) := by
  intro s failure t _ h
  cases h

theorem contained_log (level : LogLevel) (text : String) : Contained p (log level text) := by
  intro s failure t _ h
  cases h

theorem contained_measure (change : Metrics → Metrics) : Contained p (measure change) := by
  intro s failure t _ h
  cases h

theorem contained_obtain {answer : Except Failure α} (h : Ordinary answer) :
    Contained p (Action.obtain answer) := by
  intro s failure t _ ht
  cases answer with
  | ok a => cases ht
  | error other =>
    cases ht
    exact h failure rfl

theorem contained_ask {question : Store → Except Failure α}
    (h : ∀ store, Ordinary (question store)) : Contained p (ask question) :=
  contained_get_bind fun s => contained_obtain (h s.store)

theorem contained_change {operation : Store → Except Failure Store}
    (h : ∀ store, Ordinary (operation store)) : Contained p (change operation) := by
  intro s failure t _ ht
  rw [change_apply] at ht
  cases hq : operation s.store with
  | ok a =>
    rw [hq] at ht
    cases ht
  | error other =>
    rw [hq] at ht
    cases ht
    exact h s.store failure hq

theorem contained_bind (keeps : ∀ s, p s → p (x.after s)) (hx : Contained p x)
    (hf : ∀ a, Contained p (f a)) : Contained p (x >>= f) := by
  intro s failure t hs h
  rw [bind_apply] at h
  cases hxs : x s with
  | ok a u =>
    rw [hxs] at h
    exact hf a u failure t (after_ok hxs ▸ keeps s hs) h
  | error other u =>
    rw [hxs] at h
    cases h
    exact hx s failure t hs hxs

theorem contained_of_always (h : Contained (fun _ => True) x) : Contained p x :=
  fun s failure t _ => h s failure t trivial

theorem contained_bind_always (hx : Contained (fun _ => True) x)
    (hf : ∀ a, Contained (fun _ => True) (f a)) : Contained (fun _ => True) (x >>= f) :=
  contained_bind (fun _ _ => trivial) hx hf

theorem ok_orElse {handle : Failure → Action α} (hx : Contained p x)
    (hh : ∀ failure t, ∃ a u, handle failure t = .ok a u) (hs : p s) :
    ∃ a t, orElse x handle s = .ok a t := by
  rw [orElse_apply]
  cases h : x s with
  | ok a t => exact ⟨a, t, rfl⟩
  | error failure t =>
    obtain ⟨a, u, hu⟩ := hh failure t
    exact ⟨a, u, by simp only [hx s failure t hs h, if_true, hu]⟩

end Contained

def Resilient (x : Action α) : Prop :=
  ∀ s failure t, x s = .error failure t → failure.isOrdinary = false

section Resilient

theorem resilient_of_ok (h : ∀ s, ∃ a t, x s = .ok a t) : Resilient x := by
  intro s failure t failed
  obtain ⟨a, u, hu⟩ := h s
  rw [hu] at failed
  cases failed

theorem resilient_get_bind {f : Service → Action α} (h : ∀ s, Resilient (f s)) :
    Resilient (get >>= f) :=
  fun s => h s s

theorem resilient_bind (hx : Resilient x) (hf : ∀ a, Resilient (f a)) : Resilient (x >>= f) := by
  intro s failure t h
  rw [bind_apply] at h
  cases hxs : x s with
  | ok a u =>
    rw [hxs] at h
    exact hf a u failure t h
  | error other u =>
    rw [hxs] at h
    cases h
    exact hx s failure t hxs

theorem resilient_orElse {handle : Failure → Action α} (h : ∀ failure, Resilient (handle failure)) :
    Resilient (orElse x handle) := by
  intro s failure t failed
  rw [orElse_apply] at failed
  cases hx : x s with
  | ok a u =>
    rw [hx] at failed
    cases failed
  | error other u =>
    rw [hx] at failed
    dsimp only at failed
    split at failed
    · exact h other u failure t failed
    · rename_i fatal
      cases failed
      simpa using fatal

end Resilient

end Action

end AnalysisWebhooks
