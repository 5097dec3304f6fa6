import AnalysisWebhooks.Proofs.Analysis.Properties
import AnalysisWebhooks.Proofs.Check.Fields
import AnalysisWebhooks.Proofs.Store.Reading
import AnalysisWebhooks.Request.Basic
import Mathlib.Data.List.Forall2

namespace AnalysisWebhooks

open Check

section Sent

variable {α : Type} {k : Key} {members : Json.Members} {read : Json → Check α}

def Key.sent? (k : Key) (members : Json.Members) : Option Json :=
  match k.find? members with
  | some (_, .null) => none
  | some (_, j) => some j
  | none => none

theorem sent?_of_find? {name : String} {j : Json} (h : k.find? members = some (name, j))
    (told : j ≠ .null) : k.sent? members = some j := by
  rw [Key.sent?, h]
  cases j with
  | null => exact absurd rfl told
  | bool _ | int _ | real _ | text _ | array _ | object _ => rfl

theorem sent?_of_maybe {value : Option α} (h : maybe k read members = ok value) :
    Option.Rel (fun j a => read j = ok a) (k.sent? members) value := by
  cases value with
  | some a =>
    obtain ⟨name, j, found, told, passed⟩ := maybe_eq_some.1 h
    rw [sent?_of_find? found told]
    exact .some passed
  | none =>
    have untold : k.sent? members = none := by
      rcases maybe_eq_none.1 h with absent | ⟨name, null⟩
      · rw [Key.sent?, absent]
      · rw [Key.sent?, null]
    rw [untold]
    exact .none

theorem sent?_of_maybe_text {value : Option RawText} (h : maybe k text members = ok value) :
    k.sent? members = value.map .text := by
  have told := sent?_of_maybe h
  revert told
  generalize k.sent? members = sent
  rintro (told | _)
  · rw [text_eq_ok.1 told]
    rfl
  · rfl

theorem sent?_of_required_text {s : RawText} (h : required k text members = ok s) :
    k.sent? members = some (.text s) := by
  obtain ⟨name, j, found, passed⟩ := required_eq_ok.1 h
  rw [text_eq_ok.1 passed] at found
  exact sent?_of_find? found nofun

theorem sent?_of_required_oneOf {names : List (String × α)} {a : α}
    (h : required k (oneOf names) members = ok a) :
    ∃ s, k.sent? members = some (.text (.plain s)) ∧ names.lookup s = some a := by
  obtain ⟨name, j, found, passed⟩ := required_eq_ok.1 h
  cases j with
  | text t =>
    cases t with
    | plain s => exact ⟨s, sent?_of_find? found nofun, oneOf_eq_ok.1 passed⟩
    | broken units lone => cases passed
  | null | bool _ | int _ | real _ | array _ | object _ => cases passed

end Sent

def sentConditions (gate : Json.Members) : List Json :=
  match Json.get? gate "conditions" with
  | some (.array items) => items
  | _ => []

namespace Condition

structure Sent (c : Condition) (m : Json.Members) : Prop where
  metric : metricKey.sent? m = some (.text c.metric)
  operator : (Key.word "operator").sent? m = some (.text c.operator.name)
  status : (Key.word "status").sent? m = some (.text c.measure.statusName)
  value : ∀ told, c.measure.text? = some told → (Key.word "value").sent? m = some (.text told)
  onLeakPeriod : optional leakKey false boolean m = ok c.onLeakPeriod
  errorThreshold : errorKey.sent? m = c.errorThreshold.map .text
  warningThreshold : warningKey.sent? m = c.warningThreshold.map .text

def Lacking (m : Json.Members) : Prop :=
  (errorKey.sent? m = none ∧ warningKey.sent? m = none) ∨
    (Key.word "status").sent? m ≠ some (.text "NO_VALUE") ∧ (Key.word "value").sent? m = none

theorem Sent.not_lacking {c : Condition} {m : Json.Members} (h : c.Sent m) : ¬ Lacking m := by
  rintro (⟨noError, noWarning⟩ | ⟨measured, noValue⟩)
  · rw [h.errorThreshold, Option.map_eq_none_iff] at noError
    rw [h.warningThreshold, Option.map_eq_none_iff] at noWarning
    have bounded := c.bounded
    rw [noError, noWarning] at bounded
    exact bounded.elim nofun nofun
  · cases hmeasure : c.measure with
    | noValue =>
      rw [h.status, hmeasure] at measured
      exact measured rfl
    | value status told =>
      rw [h.value told (by rw [hmeasure]; rfl)] at noValue
      cases noValue

theorem withoutIdleValue_cases (m : Json.Members) :
    withoutIdleValue m = m ∨
      Json.get? m "status" = some (.text "NO_VALUE") ∧
        withoutIdleValue m = (Key.word "value").others m := by
  unfold withoutIdleValue
  split
  · rename_i status found
    split
    · rename_i idle
      refine .inr ⟨by rw [found, idle]; rfl, List.filter_congr fun e _ => ?_⟩
      simp [Key.Spells, Key.word]
    · exact .inl rfl
  · exact .inl rfl

theorem find?_withoutIdleValue {k : Key} (apart : k.Apart (.word "value")) (m : Json.Members) :
    k.find? (withoutIdleValue m) = k.find? m := by
  rcases withoutIdleValue_cases m with same | ⟨-, same⟩
  · rw [same]
  · rw [same, Key.find?_others apart]

theorem sent?_withoutIdleValue {k : Key} (apart : k.Apart (.word "value")) (m : Json.Members) :
    k.sent? (withoutIdleValue m) = k.sent? m := by
  rw [Key.sent?, find?_withoutIdleValue apart, Key.sent?]

def statusText : Option GateStatus → String
  | none => Measure.noValue.statusName
  | some status => status.name

theorem statusText_of_measure? {f : Fields} {measure : Measure} (h : f.measure? = some measure) :
    statusText f.status = measure.statusName ∧ ∀ told, measure.text? = some told →
      f.value = some told ∧ measure.statusName ≠ "NO_VALUE" := by
  unfold Fields.measure? at h
  split at h
  · rename_i missing
    cases h
    rw [missing]
    exact ⟨rfl, nofun⟩
  · rename_i status told hstatus hvalue
    cases h
    rw [hstatus, hvalue]
    refine ⟨rfl, fun told h => ⟨h, ?_⟩⟩
    rw [Measure.statusName]
    cases status <;> decide
  · cases h

theorem eq_statusText_of_lookup {s : String} {status : Option GateStatus}
    (h : Measure.statusNames.lookup s = some status) : s = statusText status :=
  @eq_name_of_lookup _ statusText [none, some .ok, some .warn, some .error] _ _ h

theorem ofFields_eq_ok {f : Fields} {c : Condition} (h : ofFields f = ok c) :
    f.measure? = some c.measure ∧ c.metric = f.metric ∧ c.operator = f.operator ∧
      c.onLeakPeriod = f.onLeakPeriod ∧ c.errorThreshold = f.errorThreshold ∧
      c.warningThreshold = f.warningThreshold := by
  unfold ofFields at h
  split at h
  · split at h
    · rename_i measure hmeasure
      cases h
      exact ⟨hmeasure, rfl, rfl, rfl, rfl, rfl⟩
    · cases h
  · cases h

structure Fields.Sent (f : Fields) (m : Json.Members) : Prop where
  status : (Key.word "status").sent? m = some (.text (statusText f.status))
  metric : metricKey.sent? m = some (.text f.metric)
  operator : (Key.word "operator").sent? m = some (.text f.operator.name)
  errorThreshold : errorKey.sent? m = f.errorThreshold.map .text
  warningThreshold : warningKey.sent? m = f.warningThreshold.map .text
  onLeakPeriod : optional leakKey false boolean m = ok f.onLeakPeriod
  value : (Key.word "value").sent? m = f.value.map .text

theorem Fields.sent_of_read {m : Json.Members} {f : Fields} (h : Fields.read m = ok f) :
    f.Sent m := by
  obtain ⟨-, hvalues, -⟩ := closed_eq_ok.1 h
  obtain ⟨_, value, hleaks, hvalue, rfl⟩ := seq_eq_ok.1 hvalues
  obtain ⟨_, onLeakPeriod, hwarnings, hleak, rfl⟩ := seq_eq_ok.1 hleaks
  obtain ⟨_, warningThreshold, herrors, hwarning, rfl⟩ := seq_eq_ok.1 hwarnings
  obtain ⟨_, errorThreshold, hoperators, herror, rfl⟩ := seq_eq_ok.1 herrors
  obtain ⟨_, operator, hmetrics, hoperator, rfl⟩ := seq_eq_ok.1 hoperators
  obtain ⟨_, metric, hstatuses, hmetric, rfl⟩ := seq_eq_ok.1 hmetrics
  obtain ⟨status, hstatus, rfl⟩ := Check.map_eq_ok.1 hstatuses
  obtain ⟨statusName, sentStatus, lookedUp⟩ := sent?_of_required_oneOf hstatus
  obtain ⟨operatorName, sentOperator, operatorLookedUp⟩ := sent?_of_required_oneOf hoperator
  constructor
  case status => rw [sentStatus, eq_statusText_of_lookup lookedUp]
  case metric => exact sent?_of_required_text hmetric
  case operator => rw [sentOperator, eq_name_of_lookup operatorLookedUp]
  case errorThreshold => exact sent?_of_maybe_text herror
  case warningThreshold => exact sent?_of_maybe_text hwarning
  case onLeakPeriod => exact hleak
  case value => exact sent?_of_maybe_text hvalue

theorem sent_of_read {m : Json.Members} {c : Condition} (h : read (.object m) = ok c) :
    c.Sent m := by
  obtain ⟨f, hfields, hcondition⟩ := andThen_eq_ok.1 h
  have sent := Fields.sent_of_read hfields
  obtain ⟨measured, metric, operator, onLeakPeriod, errorThreshold, warningThreshold⟩ :=
    ofFields_eq_ok hcondition
  obtain ⟨status, valued⟩ := statusText_of_measure? measured
  have sentStatus : (Key.word "status").sent? m = some (.text c.measure.statusName) := by
    rw [← sent?_withoutIdleValue (by decide), sent.status, status]
  constructor
  case metric => rw [← sent?_withoutIdleValue (by decide), sent.metric, metric]
  case operator => rw [← sent?_withoutIdleValue (by decide), sent.operator, operator]
  case status => exact sentStatus
  case value =>
    intro told htold
    obtain ⟨hvalue, ne⟩ := valued told htold
    rcases withoutIdleValue_cases m with same | ⟨idle, -⟩
    · rw [← same, sent.value, hvalue]
      rfl
    · -- the status says that there is no value, but the condition has one
      have found : (Key.word "status").find? m = some ("status", .text "NO_VALUE") := by
        rw [Key.find?, Key.word, idle]
      rw [sent?_of_find? found (by simp), Option.some.injEq, Json.text.injEq,
        RawText.plain.injEq] at sentStatus
      exact absurd sentStatus.symm ne
  case onLeakPeriod =>
    have told := sent.onLeakPeriod
    rw [Check.optional, find?_withoutIdleValue (by decide)] at told
    rw [onLeakPeriod, ← told, Check.optional]
  case errorThreshold =>
    rw [← sent?_withoutIdleValue (by decide), sent.errorThreshold, errorThreshold]
  case warningThreshold =>
    rw [← sent?_withoutIdleValue (by decide), sent.warningThreshold, warningThreshold]

end Condition

def QualityGate.Sent (g : QualityGate) (m : Json.Members) : Prop :=
  List.Forall₂ (fun j c => ∃ n, j = .object n ∧ Condition.Sent c n) (sentConditions m) g.conditions

theorem QualityGate.sent_of_read {m : Json.Members} {g : QualityGate}
    (h : read (.object m) = ok g) : g.Sent m := by
  obtain ⟨_, told, h⟩ := record_eq_ok.1 h
  cases told
  obtain ⟨-, hgate, -⟩ := closed_eq_ok.1 h
  obtain ⟨_, conditions, hstatus, hconditions, rfl⟩ := seq_eq_ok.1 hgate
  obtain ⟨_, status, hname, -, rfl⟩ := seq_eq_ok.1 hstatus
  obtain ⟨_, name, hid, -, rfl⟩ := seq_eq_ok.1 hname
  obtain ⟨id, -, rfl⟩ := Check.map_eq_ok.1 hid
  have same : (Key.word "conditions").find? m =
      (Json.get? m "conditions").map fun j => ("conditions", j) := by
    rw [Key.find?, Key.word]
    cases Json.get? m "conditions" <;> rfl
  rw [optional_eq_ok, same] at hconditions
  unfold Sent sentConditions
  rcases hconditions with ⟨absent, rfl⟩ | ⟨spelled, j, found, passed⟩
  · rw [Option.map_eq_none_iff.1 absent]
    exact .nil
  · obtain ⟨_, told, same⟩ := Option.map_eq_some_iff.1 found
    cases same
    rw [told]
    cases j with
    | array items =>
      refine (items_eq_ok.1 passed).imp fun j c hread => ?_
      obtain ⟨n, rfl, -⟩ := record_eq_ok.1 hread
      exact ⟨n, rfl, Condition.sent_of_read hread⟩
    | null | bool _ | int _ | real _ | text _ | object _ => cases passed

theorem AnalysisReport.gate_of_ofMembers {members : Json.Members} {report : AnalysisReport}
    (h : ofMembers members = ok report) :
    maybe gateKey QualityGate.read members = ok report.gate := by
  obtain ⟨_, properties, hgates, -, rfl⟩ := seq_eq_ok.1 h
  obtain ⟨_, gate, hanalysis, hgate, rfl⟩ := seq_eq_ok.1 hgates
  obtain ⟨_, analysis, hbranch, -, rfl⟩ := seq_eq_ok.1 hanalysis
  obtain ⟨_, branch, hproject, -, rfl⟩ := seq_eq_ok.1 hbranch
  obtain ⟨_, project, htask, -, rfl⟩ := seq_eq_ok.1 hproject
  obtain ⟨task, -, rfl⟩ := Check.map_eq_ok.1 htask
  exact hgate

theorem FinishedAnalysis.gate_of_read {members : Json.Members} {f : FinishedAnalysis}
    (h : read (.object members) = ok f) :
    Option.Rel (fun j g => ∃ m, j = .object m ∧ QualityGate.Sent g m) (gateKey.sent? members)
      f.report.gate := by
  obtain ⟨_, told, h⟩ := record_eq_ok.1 h
  cases told
  obtain ⟨-, hfields, -⟩ := closed_eq_ok.1 h
  obtain ⟨_, mainProject, hsteps, -, rfl⟩ := seq_eq_ok.1 hfields
  obtain ⟨_, steps, hreport, -, rfl⟩ := seq_eq_ok.1 hsteps
  obtain ⟨report, hproperties, rfl⟩ := Check.map_eq_ok.1 hreport
  have told := sent?_of_maybe (AnalysisReport.gate_of_ofMembers hproperties)
  show Option.Rel _ _ report.gate
  revert told
  generalize gateKey.sent? members = sent
  generalize report.gate = gate
  rintro (hread | _)
  · obtain ⟨m, rfl, -⟩ := record_eq_ok.1 hread
    exact .some ⟨m, rfl, QualityGate.sent_of_read hread⟩
  · exact .none

end AnalysisWebhooks
