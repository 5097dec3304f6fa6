import AnalysisWebhooks.Proofs.Service.Run

namespace AnalysisWebhooks

def Service.bare (s : Service) : Service :=
  { s with metrics := {}, log := [] }

theorem Service.eq_of_bare {s t : Service} (h : s.bare = t.bare) :
    t = { s with metrics := t.metrics, log := t.log } := by
  cases s
  cases t
  simp only [Service.bare, Service.mk.injEq] at h ⊢
  obtain ⟨rfl, rfl, -, rfl, rfl, rfl, rfl, rfl, -⟩ := h
  simp

namespace Action

variable {α β γ δ : Type}

inductive SameEnd (r : α → β → Prop) :
    EStateM.Result Failure Service α → EStateM.Result Failure Service β → Prop
  | ok {a : α} {b : β} {s t : Service} (values : r a b) (services : s.bare = t.bare) :
      SameEnd r (.ok a s) (.ok b t)
  | error {s t : Service} (failure : Failure) (services : s.bare = t.bare) :
      SameEnd r (.error failure s) (.error failure t)

def Alike (r : α → β → Prop) (x : Action α) (y : Action β) : Prop :=
  ∀ s t, s.bare = t.bare → SameEnd r (x s) (y t)

section Alike

variable {r : α → β → Prop} {q : γ → δ → Prop} {x : Action α} {y : Action β} {f : α → Action γ}
  {g : β → Action δ}

theorem alike_pure {a : α} {b : β} (h : r a b) : Alike r (pure a) (pure b) :=
  fun _ _ hst => .ok h hst

theorem alike_throw (failure : Failure) : Alike r (throw failure) (throw failure) :=
  fun _ _ hst => .error failure hst

theorem alike_bind (hxy : Alike r x y) (hfg : ∀ a b, r a b → Alike q (f a) (g b)) :
    Alike q (x >>= f) (y >>= g) := by
  intro s t hst
  have first := hxy s t hst
  rw [bind_apply, bind_apply]
  generalize x s = rx, y t = ry at first
  cases first with
  | ok values services => exact hfg _ _ values _ _ services
  | error failure services => exact .error failure services

theorem alike_orElse {handle : Failure → Action α} {cope : Failure → Action β}
    (hxy : Alike r x y) (h : ∀ failure, Alike r (handle failure) (cope failure)) :
    Alike r (orElse x handle) (orElse y cope) := by
  intro s t hst
  have first := hxy s t hst
  rw [orElse_apply, orElse_apply]
  generalize x s = rx, y t = ry at first
  cases first with
  | ok values services => exact .ok values services
  | error failure services =>
    dsimp only
    split
    · exact h failure _ _ services
    · exact .error failure services

theorem alike_get_bind {f : Service → Action γ} {g : Service → Action δ}
    (h : ∀ s metrics log, Alike q (f s) (g { s with metrics, log })) :
    Alike q (get >>= f) (get >>= g) := by
  intro s t hst
  rw [get_bind, get_bind]
  have other := h s t.metrics t.log
  rw [← Service.eq_of_bare hst] at other
  exact other s t hst

theorem alike_set {s t : Service} (h : s.bare = t.bare) :
    Alike (fun _ _ => True) (set s : Action PUnit) (set t : Action PUnit) :=
  fun _ _ _ => .ok trivial h

theorem alike_log_bind {level : LogLevel} {text : String} {f : PUnit → Action α}
    (h : Alike r (f ⟨⟩) y) : Alike r (log level text >>= f) y := by
  intro s t hst
  rw [log_bind]
  exact h _ t hst

theorem alike_measure_bind {change : Metrics → Metrics} {f : PUnit → Action α}
    (h : Alike r (f ⟨⟩) y) : Alike r (measure change >>= f) y := by
  intro s t hst
  exact h _ t hst

theorem Alike.bare_after {s t : Service} (h : Alike r x y) (hst : s.bare = t.bare) :
    (x.after s).bare = (y.after t).bare := by
  have both := h s t hst
  rw [after, after]
  generalize x s = rx, y t = ry at both
  cases both with
  | ok values services => exact services
  | error failure services => exact services

theorem bare_after_orElse {handle : Failure → Action α}
    (h : ∀ failure t, ((handle failure).after t).bare = t.bare) (s : Service) :
    ((orElse x handle).after s).bare = (x.after s).bare := by
  rw [after_orElse, after]
  cases x s with
  | ok a t => rfl
  | error failure t =>
    dsimp only
    split
    · exact h failure t
    · rfl

end Alike

def Blind (x : Action α) : Prop :=
  Alike (· = ·) x x

section Blind

variable {x : Action α} {f : α → Action β}

theorem blind_pure (a : α) : Blind (pure a : Action α) :=
  alike_pure rfl

theorem blind_throw (failure : Failure) : Blind (throw failure : Action α) :=
  alike_throw failure

theorem blind_log (level : LogLevel) (text : String) : Blind (log level text) :=
  fun _ _ hst => .ok rfl hst

theorem blind_measure (change : Metrics → Metrics) : Blind (measure change) :=
  fun _ _ hst => .ok rfl hst

theorem blind_bind (hx : Blind x) (hf : ∀ a, Blind (f a)) : Blind (x >>= f) :=
  alike_bind hx fun a _ h => h ▸ hf a

theorem blind_get_bind {f : Service → Action α}
    (h : ∀ s metrics log, Alike (· = ·) (f s) (f { s with metrics, log })) : Blind (get >>= f) :=
  alike_get_bind h

theorem blind_obtain (answer : Except Failure α) : Blind (Action.obtain answer) := by
  cases answer with
  | ok a => exact blind_pure a
  | error failure => exact blind_throw failure

theorem blind_ask (question : Store → Except Failure α) : Blind (ask question) :=
  blind_get_bind fun s _ _ => blind_obtain (question s.store)

theorem blind_change (operation : Store → Except Failure Store) : Blind (change operation) := by
  refine blind_get_bind fun s metrics log => ?_
  dsimp only
  cases operation s.store with
  | error failure => exact alike_throw failure
  | ok store =>
    intro u v huv
    rw [Service.eq_of_bare huv]
    exact .ok rfl rfl

end Blind

end Action

end AnalysisWebhooks
