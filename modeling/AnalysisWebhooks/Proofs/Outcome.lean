import Mathlib.Data.List.Forall2
import AnalysisWebhooks.Failure

namespace AnalysisWebhooks

variable {α β : Type}

theorem bind_eq_ok {x : Except Failure α} {f : α → Except Failure β} {b : β} :
    x >>= f = .ok b ↔ ∃ a, x = .ok a ∧ f a = .ok b := by
  cases x <;> simp [bind, Except.bind]

theorem map_eq_ok {x : Except Failure α} {f : α → β} {b : β} :
    x.map f = .ok b ↔ ∃ a, x = .ok a ∧ f a = b := by
  cases x <;> simp [Except.map]

theorem mapM_eq_ok {f : α → Except Failure β} {l : List α} {m : List β} :
    l.mapM f = .ok m ↔ List.Forall₂ (fun a b => f a = .ok b) l m := by
  induction l generalizing m with
  | nil => cases m <;> simp [pure, Except.pure]
  | cons a rest ih =>
    rw [List.mapM_cons, bind_eq_ok]
    constructor
    · rintro ⟨b, hb, h⟩
      obtain ⟨bs, hbs, h⟩ := bind_eq_ok.1 h
      cases h
      exact .cons hb (ih.1 hbs)
    · rintro (_ | ⟨hb, hbs⟩)
      exact ⟨_, hb, bind_eq_ok.2 ⟨_, ih.2 hbs, rfl⟩⟩

theorem exists_mapM_eq_ok {f : α → Except Failure β} {l : List α} :
    (∃ m, l.mapM f = .ok m) ↔ ∀ a ∈ l, ∃ b, f a = .ok b := by
  induction l with
  | nil => simp [pure, Except.pure]
  | cons a rest ih =>
    simp only [List.mapM_cons, bind_eq_ok, List.forall_mem_cons, ← ih]
    constructor
    · rintro ⟨m, b, hb, bs, hbs, -⟩
      exact ⟨⟨b, hb⟩, bs, hbs⟩
    · rintro ⟨⟨b, hb⟩, bs, hbs⟩
      exact ⟨b :: bs, b, hb, bs, hbs, rfl⟩

theorem forall₂_filter {r : α → β → Prop} {l : List α} {m : List β} {p : α → Bool} {q : β → Bool}
    (h : List.Forall₂ r l m) (same : ∀ a b, r a b → p a = q b) :
    List.Forall₂ r (l.filter p) (m.filter q) :=
  List.rel_filter (fun a b hab => Bool.eq_iff_iff.1 (same a b hab)) h

def Ordinary (x : Except Failure α) : Prop :=
  ∀ failure, x = .error failure → failure.isOrdinary = true

theorem ordinary_ok (a : α) : Ordinary (.ok a : Except Failure α) := by
  intro failure h
  cases h

theorem ordinary_error {failure : Failure} (h : failure.isOrdinary = true) :
    Ordinary (.error failure : Except Failure α) := by
  intro other ho
  cases ho
  exact h

theorem ordinary_bind {x : Except Failure α} {f : α → Except Failure β} (hx : Ordinary x)
    (hf : ∀ a, Ordinary (f a)) : Ordinary (x >>= f) := by
  intro failure h
  cases x with
  | ok a => exact hf a failure h
  | error other =>
    cases h
    exact hx failure rfl

theorem ordinary_mapM {f : α → Except Failure β} {l : List α} (h : ∀ a ∈ l, Ordinary (f a)) :
    Ordinary (l.mapM f) := by
  induction l with
  | nil => exact ordinary_ok []
  | cons a rest ih =>
    rw [List.mapM_cons]
    exact ordinary_bind (h a List.mem_cons_self) fun _ =>
      ordinary_bind (ih fun b hb => h b (List.mem_cons_of_mem a hb)) fun _ => ordinary_ok _

theorem ordinary_map {x : Except Failure α} {f : α → β} (hx : Ordinary x) : Ordinary (x.map f) := by
  intro failure h
  cases x with
  | ok a => cases h
  | error other =>
    cases h
    exact hx failure rfl

end AnalysisWebhooks
