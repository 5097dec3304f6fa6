import AnalysisWebhooks.Analysis.Document
import AnalysisWebhooks.Proofs.Calendar.PublicText
import AnalysisWebhooks.Proofs.Store.Chronology
import AnalysisWebhooks.Proofs.Store.Insertions
import AnalysisWebhooks.Proofs.Webhook.Told

namespace AnalysisWebhooks

open Calendar Check

theorem Check.hasPublicOffset_of_moment {j : Json} {m : Moment} (h : moment j = ok m) :
    m.HasPublicOffset := by
  have gives {read : Option Moment} (hread : Gives Moment.HasPublicOffset read)
      (h : ofMoment? read = ok m) : m.HasPublicOffset := by
    cases read with
    | none => cases h
    | some told =>
      cases h
      exact hread m rfl
  cases j with
  | text t =>
    cases t with
    | plain s => exact gives (gives_requestMoment? s) h
    | broken units lone => cases h
  | int n => exact gives (gives_ofCount? n) h
  | real x => exact gives (gives_ofReal? x) h
  | null | bool _ | array _ | object _ => cases h

theorem AnalysisInfo.hasPublicOffset_date {j : Json} {info : AnalysisInfo}
    (h : AnalysisInfo.read j = ok info) : info.date.HasPublicOffset := by
  obtain ⟨m, -, h⟩ := record_eq_ok.1 h
  obtain ⟨_, date, hmk, hdate, rfl⟩ := seq_eq_ok.1 (closed_eq_ok.1 h).2.1
  obtain ⟨uuid, -, rfl⟩ := Check.map_eq_ok.1 hmk
  obtain ⟨_, _, -, hdate⟩ := required_eq_ok.1 hdate
  exact hasPublicOffset_of_moment hdate

structure IsAnalysisDate (date : Moment) : Prop where
  accepted : ∃ j info, AnalysisInfo.read j = ok info ∧ info.date = date
  year : 1000 ≤ date.date.year
  utcYear : date.IsFourDigit

theorem IsAnalysisDate.hasPublicOffset {date : Moment} (h : IsAnalysisDate date) :
    date.HasPublicOffset := by
  obtain ⟨j, info, hread, rfl⟩ := h.accepted
  exact AnalysisInfo.hasPublicOffset_date hread

structure Dating (date : Moment) (stored told : String) (recorded sent : Moment) : Prop where
  inserts : ∀ (s : Store) (uuid component status : String),
    (∀ row ∈ s.snapshots, row.uuid ≠ uuid) →
    ∃ t, s.withSnapshot uuid component date status = .ok t ∧
      t.snapshots.getLast? = some ⟨uuid, component, status, status = Store.processed, stored⟩
  tells : ∀ (a : ProjectAnalysis) (info : AnalysisInfo) (server : Server) (now : Moment),
    a.analysis = some info → info.date = date → ∃ m,
      (a.payload server now).body = (Json.object m).write ∧
      Json.get? m "analysedAt" = some (.text told) ∧ Json.get? m "changedAt" = some (.text told)
  readsStored : readStored stored = .ok recorded
  utc : recorded.offset = some 0
  sameInstant : recorded.instant = date.instant
  picture : List.Forall₂ Fits "0000-00-00T00:00:00+0000".toList told.toList
  readsTold : moment (.text told) = ok sent
  offset : sent.offset = some (date.offset.getD 0)
  whole : sent.instant = recorded.instant - recorded.instant % secondMicros

theorem exists_withSnapshot {s : Store} {uuid : String} {date : Moment} {stored : String}
    (fresh : ∀ row ∈ s.snapshots, row.uuid ≠ uuid) (h : storedDate date = .ok stored)
    (component status : String) :
    ∃ t, s.withSnapshot uuid component date status = .ok t ∧
      t.snapshots.getLast? = some ⟨uuid, component, status, status = Store.processed, stored⟩ := by
  have inserted : ∃ t, s.withSnapshot uuid component date status = .ok t := by
    unfold Store.withSnapshot
    rw [h, ok_bind]
    dsimp only
    rw [if_neg (by simpa using fresh)]
    exact ⟨_, rfl⟩
  obtain ⟨t, ht⟩ := inserted
  obtain ⟨createdAt, hdate, heq⟩ := Store.withSnapshot_eq_ok ht
  obtain rfl : createdAt = stored := Except.ok.inj (hdate.symm.trans h)
  refine ⟨t, ht, ?_⟩
  rw [heq]
  exact List.getLast?_concat

theorem exists_told_dates {a : ProjectAnalysis} {info : AnalysisInfo} (h : a.analysis = some info)
    (server : Server) (now : Moment) : ∃ m, (a.payload server now).body = (Json.object m).write ∧
      Json.get? m "analysedAt" = some (.text info.date.publicText) ∧
      Json.get? m "changedAt" = some (.text info.date.publicText) := by
  obtain ⟨m, hm, told⟩ := a.told_document server now
  refine ⟨m, congrArg Json.write hm, ?_, ?_⟩
  · rw [told.analysedAt, h]
    rfl
  · rw [told.changedAt, h]
    rfl

theorem IsAnalysisDate.dating {date : Moment} (h : IsAnalysisDate date) :
    ∃ stored recorded, Dating date stored date.publicText recorded date.toSecond := by
  obtain ⟨stored, recorded, hdate, -, hread, hutc, hinstant⟩ := h.utcYear.exists_stored
  refine ⟨stored, recorded, fun s uuid component status fresh =>
    exists_withSnapshot fresh hdate component status, ?_, hread, hutc, hinstant,
    Moment.fits_publicText h.hasPublicOffset h.year, ?_, rfl, ?_⟩
  · rintro a info server now hinfo rfl
    exact exists_told_dates hinfo server now
  · rw [moment, Moment.requestMoment?_publicText h.hasPublicOffset h.year]
    rfl
  · rw [hinstant, Moment.instant_toSecond]

theorem Dating.storedTextAt? {date recorded sent : Moment} {stored told : String}
    (h : Dating date stored told recorded sent) : storedTextAt? date.instant = some stored := by
  obtain ⟨t, ht, hlast⟩ := h.inserts {} "" "" "" (by simp)
  obtain ⟨createdAt, hdate, rfl⟩ := Store.withSnapshot_eq_ok ht
  rw [List.getLast?_concat] at hlast
  obtain rfl : createdAt = stored := congrArg SnapshotRow.createdAt (Option.some.inj hlast)
  obtain ⟨u, hu, rfl⟩ := storedDate_eq_ok.1 hdate
  rw [Calendar.storedTextAt?, ← Moment.toUtc?, hu]
  rfl

theorem Dating.stored_lt {date date' recorded recorded' sent sent' : Moment}
    {stored stored' told told' : String} (h : Dating date stored told recorded sent)
    (h' : Dating date' stored' told' recorded' sent') (four : date.IsFourDigit)
    (four' : date'.IsFourDigit) (before : sent.instant < sent'.instant) : stored < stored' := by
  rw [(storedTextAt_order four four' h.storedTextAt? h'.storedTextAt?).1]
  rw [h.whole, h'.whole, h.sameInstant, h'.sameInstant] at before
  unfold secondMicros at before
  omega

theorem told_and_stored_dates_agree :
    (∀ date, IsAnalysisDate date →
      ∃ stored recorded sent, Dating date stored date.publicText recorded sent) ∧
    ∀ date date' stored stored' told told' recorded recorded' sent sent',
      IsAnalysisDate date → IsAnalysisDate date' →
      Dating date stored told recorded sent → Dating date' stored' told' recorded' sent' →
      (sent.instant < sent'.instant → stored < stored') ∧
        (stored ≤ stored' → sent.instant ≤ sent'.instant) := by
  constructor
  · intro date h
    obtain ⟨stored, recorded, dating⟩ := h.dating
    exact ⟨stored, recorded, _, dating⟩
  · intro date date' stored stored' told told' recorded recorded' sent sent' h h' dating dating'
    refine ⟨dating.stored_lt dating' h.utcYear h'.utcYear, fun hle => Int.not_lt.1 fun before => ?_⟩
    exact String.not_lt.2 hle (dating'.stored_lt dating h'.utcYear h.utcYear before)

def oldYear : Moment :=
  ⟨Moment.wallOf ⟨2026, 12, 31⟩ 23 45 59 999999, some (-1800), by decide⟩

def farEast : Moment :=
  ⟨Moment.wallOf ⟨2027, 1, 1⟩ 5 45 59 250000, some 19800, by decide⟩

def dated (text : String) : Json :=
  .object [("uuid", .text "a"), ("date", .text text)]

theorem read_dated {text : String} {m : Moment} (h : requestMoment? text = some m) :
    AnalysisInfo.read (dated text) = ok ⟨"a", m⟩ := by
  have date : required (.word "date") moment [("uuid", .text "a"), ("date", .text text)] = ok m :=
    required_eq_ok.2 ⟨"date", .text text, rfl, by rw [moment, h]; rfl⟩
  rw [AnalysisInfo.read, dated, record, closed, date]
  rfl

theorem told_and_stored_dates_agree_oldYear :
    IsAnalysisDate oldYear ∧ IsAnalysisDate farEast ∧
    oldYear.publicText = "2026-12-31T23:45:59-0030" ∧
    farEast.publicText = "2027-01-01T05:45:59+0530" ∧
    ∃ recorded sent recorded' sent',
      Dating oldYear "2027-01-01T00:15:59.999999Z" oldYear.publicText recorded sent ∧
      Dating farEast "2027-01-01T00:15:59.250000Z" farEast.publicText recorded' sent' ∧
      sent'.instant ≤ sent.instant := by
  obtain ⟨exist, order⟩ := told_and_stored_dates_agree
  have first : IsAnalysisDate oldYear :=
    ⟨⟨dated "2026-12-31T23:45:59.999999-00:30", ⟨"a", oldYear⟩,
        read_dated (by decide +kernel), rfl⟩, by decide,
      ⟨⟨Moment.wallOf ⟨2027, 1, 1⟩ 0 15 59 999999, some 0, by decide⟩, by decide, by decide⟩⟩
  have second : IsAnalysisDate farEast :=
    ⟨⟨dated "2027-01-01T05:45:59.25+05:30", ⟨"a", farEast⟩,
        read_dated (by decide +kernel), rfl⟩, by decide,
      ⟨⟨Moment.wallOf ⟨2027, 1, 1⟩ 0 15 59 250000, some 0, by decide⟩, by decide, by decide⟩⟩
  have hfirst : storedTextAt? oldYear.instant = some "2027-01-01T00:15:59.999999Z" := by
    decide +kernel
  have hsecond : storedTextAt? farEast.instant = some "2027-01-01T00:15:59.250000Z" := by
    decide +kernel
  obtain ⟨stored, recorded, sent, dating⟩ := exist oldYear first
  obtain ⟨stored', recorded', sent', dating'⟩ := exist farEast second
  obtain rfl := Option.some.inj (hfirst.symm.trans dating.storedTextAt?)
  obtain rfl := Option.some.inj (hsecond.symm.trans dating'.storedTextAt?)
  have notLater := (order _ _ _ _ _ _ _ _ _ _ second first dating' dating).2
  exact ⟨first, second, by decide +kernel, by decide +kernel, recorded, sent, recorded', sent',
    dating, dating', notLater (by decide +kernel)⟩

end AnalysisWebhooks
