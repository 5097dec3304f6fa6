import AnalysisWebhooks.Proofs.Outcome

namespace AnalysisWebhooks.RawText

variable {t : RawText} {s : String}

@[simp]
theorem encoded_plain (s : String) : (plain s).encoded = .ok s := rfl

@[simp]
theorem shown_plain (s : String) : (plain s).shown = s := rfl

@[simp]
theorem plain?_plain (s : String) : (plain s).plain? = some s := rfl

@[simp]
theorem isUnicode_plain (s : String) : (plain s).isUnicode = true := rfl

theorem isUnicode_iff : t.isUnicode = true ↔ ∃ s, t = plain s := by
  cases t <;> simp [isUnicode, plain?]

theorem encoded_eq_ok : t.encoded = .ok s ↔ t = plain s := by
  cases t <;> simp [encoded]

theorem encoded_of_isUnicode (h : t.isUnicode = true) : t.encoded = .ok t.shown := by
  obtain ⟨s, rfl⟩ := isUnicode_iff.1 h
  rfl

theorem isEmpty_iff : t.isEmpty = true ↔ t = plain "" := by
  cases t with
  | plain s => simp [isEmpty, String.isEmpty_iff]
  | broken units lone => simp [isEmpty]

theorem encoded_eq_error {failure : Failure} (h : t.encoded = .error failure) :
    t.isUnicode = false ∧ ∃ points, failure = .unencodable points := by
  cases t with
  | plain s => cases h
  | broken units lone =>
    cases h
    exact ⟨rfl, _, rfl⟩

theorem ordinary_encoded (t : RawText) : Ordinary t.encoded := by
  intro failure h
  obtain ⟨-, points, rfl⟩ := encoded_eq_error h
  rfl

theorem plain_injective : Function.Injective plain :=
  fun _ _ h => plain.inj h

def loneLead : RawText :=
  .broken [Text.unit 0xD800] (by decide)

section Lists

variable {ts : List RawText} {ss : List String}

theorem mapM_encoded_eq_ok : ts.mapM encoded = .ok ss ↔ ts = ss.map plain := by
  simp only [mapM_eq_ok, encoded_eq_ok]
  constructor
  · intro h
    induction h with
    | nil => rfl
    | cons h _ ih => rw [h, ih, List.map_cons]
  · rintro rfl
    exact List.forall₂_map_left_iff.2 (List.forall₂_refl _)

theorem exists_mapM_encoded : (∃ ss, ts.mapM encoded = .ok ss) ↔ ∀ t ∈ ts, t.isUnicode = true := by
  rw [exists_mapM_eq_ok]
  exact forall₂_congr fun t _ => by rw [isUnicode_iff]; simp only [encoded_eq_ok]

theorem ordinary_mapM_encoded (ts : List RawText) : Ordinary (ts.mapM encoded) :=
  ordinary_mapM fun t _ => t.ordinary_encoded

end Lists

section Options

variable {o : Option RawText} {p : Option String}

theorem option_mapM_encoded_eq_ok : o.mapM encoded = .ok p ↔ o = p.map plain := by
  cases o with
  | none => cases p <;> simp [pure, Except.pure]
  | some t =>
    rw [Option.mapM_some]
    cases t <;> cases p <;>
      simp [encoded, Except.map, Functor.map]

@[simp]
theorem option_mapM_encoded_plain (p : Option String) :
    (p.map plain).mapM encoded = .ok p :=
  option_mapM_encoded_eq_ok.2 rfl

theorem exists_option_mapM_encoded :
    (∃ p, o.mapM encoded = .ok p) ↔ ∀ t ∈ o, t.isUnicode = true := by
  simp only [option_mapM_encoded_eq_ok]
  constructor
  · rintro ⟨p, rfl⟩
    cases p <;> simp
  · intro h
    cases o with
    | none => exact ⟨none, rfl⟩
    | some t =>
      obtain ⟨s, rfl⟩ := isUnicode_iff.1 (h t rfl)
      exact ⟨some s, rfl⟩

theorem ordinary_option_mapM_encoded (o : Option RawText) : Ordinary (o.mapM encoded) := by
  cases o with
  | none => exact ordinary_ok none
  | some t =>
    rw [Option.mapM_some]
    exact ordinary_bind t.ordinary_encoded fun _ => ordinary_ok _

end Options

end AnalysisWebhooks.RawText
