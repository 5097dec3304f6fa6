import AnalysisWebhooks.Proofs.Calendar.Order
import AnalysisWebhooks.Proofs.Check.Fields
import AnalysisWebhooks.Proofs.Store.Listed
import AnalysisWebhooks.Proofs.Store.Written
import AnalysisWebhooks.Store.Document

namespace AnalysisWebhooks

open Calendar Check

namespace Calendar

def storedTextAt? (instant : Int) : Option String :=
  (Moment.ofWall? instant (some 0)).map fun u => String.ofList u.utcChars

theorem Moment.storedText?_eq (m : Moment) : m.storedText? = storedTextAt? m.instant := rfl

def HasFourDigitYear (instant : Int) : Prop :=
  ∃ u, Moment.ofWall? instant (some 0) = some u ∧ 1000 ≤ u.date.year

theorem Moment.instant_of_utc {u : Moment} (h : u.offset = some 0) : u.instant = u.wall := by
  rw [instant, h]
  simp

theorem Moment.eq_of_utc {u : Moment} (h : u.offset = some 0) :
    (⟨u.wall, some 0, u.inRange⟩ : Moment) = u := by
  obtain ⟨wall, offset, inRange⟩ := u
  obtain rfl := h
  rfl

theorem readStored_of_utc {u : Moment} (h : u.offset = some 0) (four : 1000 ≤ u.date.year) :
    readStored (String.ofList u.utcChars) = .ok u := by
  rw [readStored_utcText four, Moment.eq_of_utc h]

theorem readStored_storedTextAt {i : Int} (h : HasFourDigitYear i) :
    ∃ text u, storedTextAt? i = some text ∧ readStored text = .ok u ∧ u.offset = some 0 ∧
      u.instant = i := by
  obtain ⟨u, hu, four⟩ := h
  have hutc : u.offset = some 0 := Moment.offset_of_ofWall? hu
  refine ⟨_, u, by rw [storedTextAt?, hu]; rfl, readStored_of_utc hutc four, hutc, ?_⟩
  rw [Moment.instant_of_ofWall? hu]
  simp

theorem Moment.IsFourDigit.exists_stored {m : Moment} (four : m.IsFourDigit) :
    ∃ text u, storedDate m = .ok text ∧ m.storedText? = some text ∧ readStored text = .ok u ∧
      u.offset = some 0 ∧ u.instant = m.instant := by
  obtain ⟨text, u, htext, hread, utc, instant⟩ := readStored_storedTextAt (i := m.instant) four
  rw [← storedText?_eq] at htext
  exact ⟨text, u, by rw [storedDate, htext], htext, hread, utc, instant⟩

theorem exists_utc_of_storedTextAt {i : Int} {text : String} (h : HasFourDigitYear i)
    (htext : storedTextAt? i = some text) :
    ∃ u : Moment, text = String.ofList u.utcChars ∧ 1000 ≤ u.date.year ∧ (u.wall : Int) = i := by
  obtain ⟨u, hu, four⟩ := h
  rw [storedTextAt?, hu] at htext
  cases htext
  refine ⟨u, rfl, four, ?_⟩
  rw [← Moment.instant_of_utc (Moment.offset_of_ofWall? hu), Moment.instant_of_ofWall? hu]
  simp

theorem storedTextAt_order {i j : Int} {ti tj : String} (hi : HasFourDigitYear i)
    (hj : HasFourDigitYear j) (hti : storedTextAt? i = some ti) (htj : storedTextAt? j = some tj) :
    (ti < tj ↔ i < j) ∧ (ti = tj ↔ i = j) := by
  obtain ⟨u, rfl, hu, rfl⟩ := exists_utc_of_storedTextAt hi hti
  obtain ⟨v, rfl, hv, rfl⟩ := exists_utc_of_storedTextAt hj htj
  rw [Moment.utcText_lt_iff hu hv, Moment.utcText_eq_iff hu hv]
  omega

end Calendar

def instantOf (text : String) : Int :=
  match readStored text with
  | .ok m => m.instant
  | .error _ => 0

theorem instantOf_utcText {u : Moment} (h : 1000 ≤ u.date.year) :
    instantOf (String.ofList u.utcChars) = u.wall := by
  rw [instantOf, readStored_utcText h]
  exact Moment.instant_of_utc rfl

theorem IsDated.lt_iff {a b : String} (ha : IsDated a) (hb : IsDated b) :
    a < b ↔ instantOf a < instantOf b := by
  obtain ⟨u, rfl, hu⟩ := ha
  obtain ⟨v, rfl, hv⟩ := hb
  rw [Moment.utcText_lt_iff hu hv, instantOf_utcText hu, instantOf_utcText hv, Int.ofNat_lt]

def latestFirst (rows : List (DeliveryRow String String)) : List (DeliveryRow String String) :=
  sorted (fun a b => decide (instantOf b.createdAt ≤ instantOf a.createdAt)) rows.reverse

section Latest

variable {rows : List (DeliveryRow String String)}

theorem newestFirst_eq_latestFirst (dated : ∀ row ∈ rows, IsDated row.createdAt) :
    newestFirst rows = latestFirst rows := by
  refine sorted_congr fun a ha b hb => ?_
  have order := (dated a (List.mem_reverse.1 ha)).lt_iff (dated b (List.mem_reverse.1 hb))
  rw [Bool.eq_iff_iff, decide_eq_true_eq, decide_eq_true_eq, ← String.not_lt, order, Int.not_lt]

theorem latestFirst_pairwise (rows : List (DeliveryRow String String)) :
    (latestFirst rows).Pairwise fun a b => instantOf b.createdAt ≤ instantOf a.createdAt := by
  refine (sorted_pairwise ?_ ?_ _).imp of_decide_eq_true
  · intro a b
    simpa using Int.le_total (instantOf b.createdAt) (instantOf a.createdAt)
  · intro a b c hab hbc
    rw [decide_eq_true_eq] at *
    exact Int.le_trans hbc hab

theorem instants_of_read {shown : List (DeliveryRow (Option String) Moment)}
    (read : List.Forall₂ (fun row r => row.read false = .ok r) rows shown) :
    rows.map (fun row => instantOf row.createdAt) = shown.map (·.createdAt.instant) := by
  induction read with
  | nil => rfl
  | cons h _ ih => rw [List.map_cons, List.map_cons, ih, instantOf, (DeliveryRow.read_eq_ok.1 h).1]

end Latest

namespace Store

variable {s t : Store}

def DatedDeliveries (s : Store) : Prop :=
  ∀ row ∈ s.deliveries, IsDated row.createdAt

theorem DatedDeliveries.readable (h : s.DatedDeliveries) : s.ReadableDeliveries :=
  fun row hrow => (h row hrow).exists_read

theorem DatedDeliveries.listDeliveries (h : s.DatedDeliveries) {project task : Option String}
    {limit : Int} {count : Nat} (hcount : rowLimit limit = .ok count) :
    ∃ shown, s.listDeliveries project task limit = .ok shown ∧
      List.Forall₂ (fun row r => row.read false = .ok r)
        ((latestFirst (s.deliveriesFor project task)).take count) shown ∧
      shown.Pairwise fun a b => b.createdAt.instant ≤ a.createdAt.instant := by
  have dated : ∀ row ∈ s.deliveriesFor project task, IsDated row.createdAt :=
    fun row hrow => h row (mem_deliveriesFor.1 hrow).1
  obtain ⟨shown, hshown, read⟩ := h.readable.listDeliveries project task hcount
  rw [listedRows, newestFirst_eq_latestFirst dated] at read
  refine ⟨shown, hshown, read, ?_⟩
  have order := (latestFirst_pairwise (s.deliveriesFor project task)).sublist
    (List.take_sublist count _)
  rw [← List.pairwise_map (R := fun a b : Int => b ≤ a)] at order ⊢
  rwa [← instants_of_read read]

theorem DatedDeliveries.trimmed (h : s.DatedDeliveries) (distinct : s.DistinctDeliveries)
    {project : String} {retention : Int} {n : Nat} (ht : s.trimmed project retention = .ok (n, t)) :
    latestFirst (t.deliveriesOf project) =
      (latestFirst (s.deliveriesOf project)).take (keptCount retention) := by
  have dated : ∀ row ∈ s.deliveriesOf project, IsDated row.createdAt :=
    fun row hrow => h row (List.mem_filter.1 hrow).1
  obtain rfl := trimmed_eq_ok ht
  have datedLeft : ∀ row ∈ (s.purged project (keptCount retention)).deliveriesOf project,
      IsDated row.createdAt :=
    fun row hrow => h row ((purged_sublist s project _).subset (List.mem_filter.1 hrow).1)
  rw [← newestFirst_eq_latestFirst dated, ← newestFirst_eq_latestFirst datedLeft,
    newestFirst_purged distinct]

end Store

theorem storedMoment_text_eq_ok {s : String} {m : Moment} :
    storedMoment (.text s) = ok m ↔ readStored s = .ok m := by
  rw [storedMoment, storedText_eq_ok, RawText.shown_plain]

theorem plainText_eq_ok {j : Json} {s : String} : plainText j = ok s ↔ j = .text (.plain s) := by
  rcases j with _ | _ | _ | _ | (_ | _) | _ | _ <;> simp [plainText, fail]

theorem storedMoment_ofUtc {m : Moment} (h : m.offset = some 0) (four : 1000 ≤ m.date.year) :
    storedMoment (Json.ofUtc m) = ok m := by
  rw [Json.ofUtc, storedMoment_text_eq_ok]
  exact readStored_of_utc h four

theorem offset_of_storedMoment {j : Json} {m : Moment} (h : storedMoment j = ok m) :
    m.offset = some 0 := by
  cases j with
  | text s =>
    rw [storedMoment, storedText_eq_ok] at h
    exact offset_of_readStored h
  | null | bool _ | int _ | real _ | array _ | object _ => simp [storedMoment, fail] at h

section Members

variable {k : Key} {name : String} {m : Json.Members}

theorem maybe_textOrNull {s : Option String} (h : k.find? m = some (name, .textOrNull s)) :
    maybe k plainText m = ok s := by
  cases s with
  | none => exact maybe_eq_none.2 (.inr ⟨name, h⟩)
  | some s => exact maybe_eq_some.2 ⟨name, .text s, h, by simp, plainText_eq_ok.2 rfl⟩

theorem maybe_intOrNull {n : Option Int} (h : k.find? m = some (name, .intOrNull n)) :
    maybe k integer m = ok n := by
  cases n with
  | none => exact maybe_eq_none.2 (.inr ⟨name, h⟩)
  | some n => exact maybe_eq_some.2 ⟨name, .int n, h, by simp, rfl⟩

end Members

theorem DeliveryRow.offset_of_ofDocument {j : Json} {row : DeliveryRow (Option String) Moment}
    (h : ofDocument j = ok row) : row.createdAt.offset = some 0 := by
  cases j with
  | object m =>
    rw [ofDocument, record] at h
    simp only [seq_eq_ok, Check.map_eq_ok] at h
    obtain ⟨_, date, ⟨_, _, ⟨_, _, ⟨_, _, ⟨_, _, ⟨_, _, ⟨_, _, ⟨_, _, ⟨_, _, ⟨_, _, ⟨_, _,
      ⟨_, -, rfl⟩, -, rfl⟩, -, rfl⟩, -, rfl⟩, -, rfl⟩, -, rfl⟩, -, rfl⟩, -, rfl⟩, -, rfl⟩, -, rfl⟩,
      -, rfl⟩, hdate, rfl⟩ := h
    obtain ⟨_, _, -, hdate⟩ := required_eq_ok.1 hdate
    exact offset_of_storedMoment hdate
  | null | bool _ | int _ | real _ | text _ | array _ => cases h

theorem DeliveryRow.ofDocument_members {row : DeliveryRow (Option String) Moment}
    (h : row.createdAt.offset = some 0) (four : 1000 ≤ row.createdAt.date.year) :
    ofDocument (.object row.members) = ok row := by
  have word {name s : String} (h : (Key.word name).find? row.members = some (name, .text s)) :
      required (.word name) plainText row.members = ok s :=
    required_eq_ok.2 ⟨name, .text s, h, plainText_eq_ok.2 rfl⟩
  have success : required (.word "success") boolean row.members = ok row.success :=
    required_eq_ok.2 ⟨"success", .bool row.success, rfl, rfl⟩
  have createdAt : required (.word "created_at") storedMoment row.members = ok row.createdAt :=
    required_eq_ok.2 ⟨"created_at", .ofUtc row.createdAt, rfl, storedMoment_ofUtc h four⟩
  rw [ofDocument, record, word rfl, word rfl, maybe_textOrNull rfl, maybe_textOrNull rfl, word rfl,
    word rfl, success, maybe_intOrNull rfl, maybe_intOrNull rfl, maybe_textOrNull rfl,
    maybe_textOrNull rfl, createdAt]
  rfl

theorem stored_texts_tell_instants :
    (∀ m : Moment, m.storedText? = storedTextAt? m.instant) ∧
    (∀ i, HasFourDigitYear i → ∃ text u, storedTextAt? i = some text ∧
      storedMoment (.text text) = ok u ∧ u.offset = some 0 ∧ u.instant = i) ∧
    (∀ i j ti tj, HasFourDigitYear i → HasFourDigitYear j → storedTextAt? i = some ti →
      storedTextAt? j = some tj → (ti < tj ↔ i < j) ∧ (ti = tj ↔ i = j)) ∧
    (∀ s : Store, s.DatedDeliveries →
      (∀ project task limit count, Store.rowLimit limit = .ok count →
        ∃ shown, s.listDeliveries project task limit = .ok shown ∧
          List.Forall₂ (fun row r => row.read false = .ok r)
            ((latestFirst (s.deliveriesFor project task)).take count) shown ∧
          shown.Pairwise fun a b => b.createdAt.instant ≤ a.createdAt.instant) ∧
      (∀ project retention n t, s.DistinctDeliveries →
        s.trimmed project retention = .ok (n, t) →
        latestFirst (t.deliveriesOf project) =
          (latestFirst (s.deliveriesOf project)).take (keptCount retention))) ∧
    (∀ text m, storedMoment (.text text) = ok m → 1000 ≤ m.date.year →
      storedMoment (Json.ofUtc m) = ok m) ∧
    (∀ j row, DeliveryRow.ofDocument j = ok row → 1000 ≤ row.createdAt.date.year →
      DeliveryRow.ofDocument (.object row.members) = ok row) := by
  refine ⟨Moment.storedText?_eq, fun i h => ?_, fun i j ti tj hi hj => storedTextAt_order hi hj,
    fun s dated => ⟨fun project task limit count => dated.listDeliveries,
      fun project retention n t distinct => dated.trimmed distinct⟩,
    fun text m h => storedMoment_ofUtc (offset_of_storedMoment h),
    fun j row h => DeliveryRow.ofDocument_members (DeliveryRow.offset_of_ofDocument h)⟩
  obtain ⟨text, u, htext, hread, hutc, hinstant⟩ := readStored_storedTextAt h
  exact ⟨text, u, htext, storedMoment_text_eq_ok.2 hread, hutc, hinstant⟩

def newYear : Moment :=
  ⟨Moment.wallOf ⟨2027, 1, 1⟩ 0 30 0 0, some 3600, by decide⟩

def lastEvening : Moment :=
  ⟨Moment.wallOf ⟨2026, 12, 31⟩ 23 45 0 0, none, by decide⟩

def newYearStore : Store where
  deliveries := [
    ⟨"e", "p", none, none, "n", "u", true, none, none, "", none, "2026-12-31T23:45:00.000000Z"⟩,
    ⟨"y", "p", none, none, "n", "u", true, none, none, "", none, "2026-12-31T23:30:00.000000Z"⟩]

def newYearDocument : Json := .object [
  ("uuid", .text "y"), ("project_uuid", .text "p"), ("name", .text "n"), ("url", .text "u"),
  ("success", .bool true), ("created_at", .text "2027-01-01T00:30:00+01:00")]

theorem stored_texts_tell_instants_newYear :
    newYear.storedText? = some "2026-12-31T23:30:00.000000Z" ∧
      lastEvening.storedText? = some "2026-12-31T23:45:00.000000Z" ∧
      newYear.instant < lastEvening.instant ∧
      (∃ u, storedMoment (.text "2026-12-31T23:30:00.000000Z") = ok u ∧
        u.offset = some 0 ∧ u.instant = newYear.instant) ∧
      (∃ shown, newYearStore.listDeliveries none none 2 = .ok shown ∧
        shown.Pairwise fun a b => b.createdAt.instant ≤ a.createdAt.instant) ∧
      (∃ n t, newYearStore.trimmed "p" 1 = .ok (n, t) ∧
        latestFirst (t.deliveriesOf "p") =
          (latestFirst (newYearStore.deliveriesOf "p")).take (keptCount 1)) ∧
      (∃ m, storedMoment (.text "2027-01-01T00:30:00+01:00") = ok m ∧
        storedMoment (.ofUtc m) = ok m) ∧
      ∃ row, DeliveryRow.ofDocument newYearDocument = ok row ∧
        DeliveryRow.ofDocument (.object row.members) = ok row := by
  obtain ⟨same, told, order, stores, texts, rows⟩ := stored_texts_tell_instants
  let midnight : Moment := ⟨Moment.wallOf ⟨2026, 12, 31⟩ 23 30 0 0, some 0, by decide⟩
  let evening : Moment := ⟨lastEvening.wall, some 0, by decide⟩
  have first : storedTextAt? newYear.instant = some "2026-12-31T23:30:00.000000Z" := by
    decide +kernel
  have second : storedTextAt? lastEvening.instant = some "2026-12-31T23:45:00.000000Z" := by
    decide +kernel
  have hfirst : HasFourDigitYear newYear.instant := ⟨midnight, by decide, by decide⟩
  have hsecond : HasFourDigitYear lastEvening.instant := ⟨evening, by decide, by decide⟩
  have dated : newYearStore.DatedDeliveries := by
    rintro row (_ | ⟨_, _ | ⟨_, ⟨⟩⟩⟩)
    · exact ⟨evening, by decide +kernel, by decide⟩
    · exact ⟨midnight, by decide +kernel, by decide⟩
  have read : storedMoment (.text "2027-01-01T00:30:00+01:00") = ok midnight := by rfl
  have document : DeliveryRow.ofDocument newYearDocument =
      ok ⟨"y", "p", none, none, "n", "u", true, none, none, none, none, midnight⟩ := by rfl
  obtain ⟨text, u, htext, hread, hutc, hinstant⟩ := told _ hfirst
  obtain rfl := Option.some.inj (first.symm.trans htext)
  obtain ⟨shown, listed, -, latest⟩ := (stores newYearStore dated).1 none none 2 2 rfl
  have trimmed := (stores newYearStore dated).2 "p" 1 _ _ (by decide) rfl
  exact ⟨(same newYear).trans first, (same lastEvening).trans second,
    (order _ _ _ _ hfirst hsecond first second).1.1 (by decide), ⟨u, hread, hutc, hinstant⟩,
    ⟨shown, listed, latest⟩, ⟨_, _, rfl, trimmed⟩, ⟨midnight, read, texts _ _ read (by decide)⟩,
    ⟨_, document, rows _ _ document (by decide)⟩⟩

end AnalysisWebhooks
