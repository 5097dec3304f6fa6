import AnalysisWebhooks.Proofs.Text.Encoding
import AnalysisWebhooks.Store.Deliveries

namespace AnalysisWebhooks

theorem fitsColumn_iff {n : Int} : fitsColumn n = true ↔ -columnBound ≤ n ∧ n < columnBound := by
  rw [fitsColumn, Bool.and_eq_true, decide_eq_true_iff, decide_eq_true_iff]

theorem columnNumber_eq (n : Int) : columnNumber n =
    if -columnBound ≤ n ∧ n < columnBound then .ok n else .error .oversizedInteger := by
  simp only [columnNumber, fitsColumn_iff]

theorem mapM_columnNumber (n : Option Int) : n.mapM columnNumber =
    if ∀ m ∈ n, -columnBound ≤ m ∧ m < columnBound then .ok n
    else .error .oversizedInteger := by
  cases n with
  | none => rfl
  | some m =>
    rw [Option.mapM_some, columnNumber_eq]
    by_cases h : -columnBound ≤ m ∧ m < columnBound
    · rw [if_pos h, if_pos (by simpa using h)]
      rfl
    · rw [if_neg h, if_neg (by simpa using h)]
      rfl

def Delivery.FitsColumns (d : Delivery) : Prop :=
  (∀ n ∈ d.httpStatus, -columnBound ≤ n ∧ n < columnBound) ∧
    ∀ n ∈ d.durationMs, -columnBound ≤ n ∧ n < columnBound

instance (d : Delivery) : Decidable d.FitsColumns :=
  inferInstanceAs (Decidable (_ ∧ _))

def Delivery.IsUnicode (d : Delivery) : Prop :=
  ∀ t ∈ d.webhook.subject.analysis, t.isUnicode = true

instance (d : Delivery) : Decidable d.IsUnicode :=
  inferInstanceAs (Decidable (∀ t ∈ _, _))

theorem Delivery.isUnicode_iff {d : Delivery} :
    d.IsUnicode ↔ ∃ analysis : Option String, d.webhook.subject.analysis = analysis.map .plain := by
  unfold IsUnicode
  cases d.webhook.subject.analysis with
  | none => exact ⟨fun _ => ⟨none, rfl⟩, fun _ => nofun⟩
  | some t =>
    simp only [Option.mem_some_iff, forall_eq']
    constructor
    · intro h
      obtain ⟨s, rfl⟩ := RawText.isUnicode_iff.1 h
      exact ⟨some s, rfl⟩
    · rintro ⟨_ | s, heq⟩
      · cases heq
      · cases heq
        rfl

def Delivery.row (d : Delivery) (uuid createdAt : String) : DeliveryRow String String where
  uuid
  project := d.webhook.subject.project
  task := d.webhook.subject.task
  analysis := d.webhook.subject.analysis.bind RawText.plain?
  name := d.webhook.name
  url := d.webhook.url
  success := d.success
  httpStatus := d.httpStatus
  durationMs := d.durationMs
  payload := d.payload.body
  error := d.errorMessage.map fun error => String.ofList (error.toList.take errorLength)
  createdAt

theorem Delivery.analysis_row {d : Delivery} (h : d.IsUnicode) (uuid createdAt : String) :
    (d.row uuid createdAt).analysis.map .plain = d.webhook.subject.analysis := by
  obtain ⟨analysis, h⟩ := isUnicode_iff.1 h
  rw [row, h]
  cases analysis <;> rfl

def DeliveryRow.webhook {Body Date : Type} (row : DeliveryRow Body Date) : Webhook :=
  ⟨⟨row.project, row.task, row.analysis.map .plain⟩, row.name, row.url⟩

namespace DeliveryRow

variable {uuid text : String} {d : Delivery} {row : DeliveryRow String String}

theorem ofDelivery_eq (h : storedDate d.time = .ok text) (unicode : d.IsUnicode) :
    ofDelivery uuid d =
      if d.FitsColumns then .ok (d.row uuid text) else .error .oversizedInteger := by
  obtain ⟨analysis, hanalysis⟩ := Delivery.isUnicode_iff.1 unicode
  have hrow : (d.row uuid text).analysis = analysis := by
    rw [Delivery.row, hanalysis]
    cases analysis <;> rfl
  rw [DeliveryRow.ofDelivery, h, mapM_columnNumber, mapM_columnNumber, hanalysis,
    RawText.option_mapM_encoded_plain]
  by_cases hstatus : ∀ n ∈ d.httpStatus, -columnBound ≤ n ∧ n < columnBound
  · by_cases hduration : ∀ n ∈ d.durationMs, -columnBound ≤ n ∧ n < columnBound
    · have fits : d.FitsColumns := ⟨hstatus, hduration⟩
      rw [if_pos hstatus, if_pos hduration, if_pos fits, ← hrow]
      rfl
    · have not_fits : ¬ d.FitsColumns := fun fits => hduration fits.2
      rw [if_pos hstatus, if_neg hduration, if_neg not_fits]
      rfl
  · have not_fits : ¬ d.FitsColumns := fun fits => hstatus fits.1
    rw [if_neg hstatus, if_neg not_fits]
    rfl

theorem ofDelivery_eq_ok : ofDelivery uuid d = .ok row ↔
    ∃ createdAt, storedDate d.time = .ok createdAt ∧ d.IsUnicode ∧ d.FitsColumns ∧
      row = d.row uuid createdAt := by
  constructor
  · intro h
    obtain ⟨createdAt, hdate, hrest⟩ := bind_eq_ok.1 h
    obtain ⟨analysis, hanalysis, -⟩ := bind_eq_ok.1 hrest
    have unicode : d.IsUnicode :=
      Delivery.isUnicode_iff.2 ⟨analysis, RawText.option_mapM_encoded_eq_ok.1 hanalysis⟩
    rw [ofDelivery_eq hdate unicode] at h
    split at h
    · rename_i fits
      cases h
      exact ⟨createdAt, hdate, unicode, fits, rfl⟩
    · cases h
  · rintro ⟨createdAt, hdate, unicode, fits, rfl⟩
    rw [ofDelivery_eq hdate unicode, if_pos fits]

theorem webhook_of_ofDelivery (h : ofDelivery uuid d = .ok row) :
    row.webhook = d.webhook ∧ row.payload = d.payload.body ∧ row.success = d.success := by
  obtain ⟨createdAt, -, unicode, -, rfl⟩ := ofDelivery_eq_ok.1 h
  refine ⟨?_, rfl, rfl⟩
  rw [webhook, Delivery.analysis_row unicode]
  rfl

theorem columns_of_ofDelivery (h : ofDelivery uuid d = .ok row) :
    row.success = d.success ∧ row.httpStatus = d.httpStatus ∧ row.durationMs = d.durationMs ∧
      row.error = d.errorMessage.map fun text => String.ofList (text.toList.take errorLength) := by
  obtain ⟨createdAt, -, -, -, rfl⟩ := ofDelivery_eq_ok.1 h
  exact ⟨rfl, rfl, rfl, rfl⟩

end DeliveryRow

theorem project_of_ofDelivery {uuid : String} {d : Delivery} {row : DeliveryRow String String}
    (h : DeliveryRow.ofDelivery uuid d = .ok row) :
    row.uuid = uuid ∧ row.project = d.webhook.subject.project := by
  obtain ⟨createdAt, -, -, -, rfl⟩ := DeliveryRow.ofDelivery_eq_ok.1 h
  exact ⟨rfl, rfl⟩

end AnalysisWebhooks
