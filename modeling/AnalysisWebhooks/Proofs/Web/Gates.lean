import AnalysisWebhooks.Proofs.Analysis.Conditions
import AnalysisWebhooks.Proofs.Web.Appended
import AnalysisWebhooks.Proofs.Web.Containment
import AnalysisWebhooks.Proofs.Webhook.Decoding

namespace AnalysisWebhooks

open AnalysisWebhooks.Action Calendar Check

inductive Json.NullFree : Json → Prop
  | bool (b : Bool) : NullFree (.bool b)
  | int (n : Int) : NullFree (.int n)
  | real (x : Float) : NullFree (.real x)
  | text (s : RawText) : NullFree (.text s)
  | array {items : List Json} (h : ∀ j ∈ items, NullFree j) : NullFree (.array items)
  | object {members : Json.Members} (h : ∀ m ∈ members, NullFree m.2) : NullFree (.object members)

section NullFree

open Json

theorem nullFree_presentMembers {entries : List (String × Option Json)}
    (h : ∀ e ∈ entries, ∀ j ∈ e.2, j.NullFree) : (Json.object (presentMembers entries)).NullFree :=
  .object fun m hm => by
    obtain ⟨key, -, entry⟩ := mem_presentMembers.1 hm
    exact h _ entry m.2 rfl

theorem Condition.nullFree_document (c : Condition) : c.document.NullFree := by
  apply nullFree_presentMembers
  simp [NullFree.text, NullFree.bool]

theorem QualityGate.nullFree_document (g : QualityGate) : g.document.NullFree := by
  refine .object ?_
  simp only [List.forall_mem_cons]
  exact ⟨.text _, .text _, .array (List.forall_mem_map.2 fun c _ => c.nullFree_document),
    List.forall_mem_nil _⟩

theorem Project.nullFree_document (p : Project) (server : Server) :
    (p.document server).NullFree :=
  .object (by simp [NullFree.text])

theorem Branch.nullFree_document (b : Branch) (server : Server) (projectKey : RawText) :
    (b.document server projectKey).NullFree := by
  apply nullFree_presentMembers
  simp [NullFree.text, NullFree.bool]

theorem ProjectAnalysis.nullFree_document (a : ProjectAnalysis) (server : Server) (now : Moment) :
    (a.document server now).NullFree := by
  have hproperties : (Json.object (a.publicProperties.map fun p => (p.1, .text p.2))).NullFree :=
    .object (List.forall_mem_map.2 fun p _ => .text p.2)
  rw [document_eq]
  apply nullFree_presentMembers
  simp [entries, NullFree.text, Project.nullFree_document, Branch.nullFree_document,
    QualityGate.nullFree_document, hproperties]

end NullFree

section Calls

variable {r : Request} {f : FinishedAnalysis}

theorem bodies_tellAll (notices : List Notice) (s : Service) :
    Sends (fun body => ∃ n ∈ notices, body = s.bodyOf n.analysis) s
      ((tellAll notices).after s) := by
  induction notices generalizing s with
  | nil => exact .refl s
  | cons n rest ih =>
    have first : Sends (fun body => ∃ m ∈ n :: rest, body = s.bodyOf m.analysis) s
        (n.tell.after s) :=
      (n.sends_tell s).mono fun body same => ⟨n, List.mem_cons_self, same⟩
    rw [after] at first
    rw [tellAll_cons, after_bind]
    cases told : n.tell s with
    | error failure t =>
      rw [told] at first
      exact first
    | ok _ t =>
      rw [told] at first
      refine first.trans ((ih t).mono fun body => ?_)
      rintro ⟨m, hm, same⟩
      exact ⟨m, List.mem_cons_of_mem n hm, by rw [same, first.bodyOf]⟩

theorem FinishedAnalysis.analysis_of_mem_notices {s : Service} {n : Notice}
    (h : n ∈ f.notices s) : n.analysis = f.report.outcome f.allStepsExecuted := by
  obtain ⟨t, -, h⟩ := recorded_of_mem_notices h
  obtain ⟨_, _, -, -, rfl⟩ := ProjectAnalysis.of_mem_notices h
  rfl

theorem calls_of_finished (h : r.finished? = some f) (s : Service) :
    ∃ new, ((handle .webhooks r).after s).calls = s.calls ++ new ∧
      ∀ call ∈ new, call.body = s.bodyOf (f.report.outcome f.allStepsExecuted) := by
  have around (a : ProjectAnalysis) : (r.recorded s).bodyOf a = s.bodyOf a := by
    rw [Request.recorded, h]
    rfl
  have before : (r.recorded s).calls = s.calls := by
    rw [Request.recorded, h]
  obtain ⟨new, hnew, bodies⟩ := (bodies_tellAll (f.notices s) (r.recorded s)).calls
  refine ⟨new, by rw [calls_of_bare (bare_after_finished h s), hnew, before], fun call hcall => ?_⟩
  obtain ⟨n, hn, same⟩ := bodies call hcall
  rw [same, around, FinishedAnalysis.analysis_of_mem_notices hn]

theorem AnalysisReport.gate_outcome (report : AnalysisReport) (allStepsExecuted : Bool) :
    (report.outcome allStepsExecuted).gate = if allStepsExecuted then report.gate else none := by
  cases allStepsExecuted <;> rfl

theorem AnalysisReport.properties_outcome (report : AnalysisReport) (allStepsExecuted : Bool) :
    (report.outcome allStepsExecuted).properties = report.properties := by
  cases allStepsExecuted <;> rfl

theorem FinishedAnalysis.nodup_keys_properties {members : Json.Members}
    (distinct : (Json.object members).Distinct) (h : read (.object members) = ok f) :
    (f.report.properties.map (·.1)).Nodup := by
  obtain ⟨_, same, h⟩ := record_eq_ok.1 h
  cases same
  obtain ⟨-, hfields, -⟩ := closed_eq_ok.1 h
  obtain ⟨_, mainProject, hsteps, -, rfl⟩ := seq_eq_ok.1 hfields
  obtain ⟨_, steps, hreport, -, rfl⟩ := seq_eq_ok.1 hsteps
  obtain ⟨report, hmembers, rfl⟩ := Check.map_eq_ok.1 hreport
  exact AnalysisReport.nodup_keys_properties distinct hmembers

theorem finished?_of_read {members : Json.Members} (reports : r.IsFor .analysisFinished)
    (sent : Json.ofText? r.body = some (.object members))
    (h : FinishedAnalysis.read (.object members) = ok f) : r.finished? = some f := by
  rw [Request.finished?, if_pos ⟨reports.1, reports.2⟩, readBody_of_object _ _ sent, h]
  rfl

end Calls

structure Condition.Echoes (sent told : Json.Members) : Prop where
  metric : Json.get? told "metric" = metricKey.sent? sent
  operator : Json.get? told "operator" = (Key.word "operator").sent? sent
  status : Json.get? told "status" = (Key.word "status").sent? sent
  onLeakPeriod : ∃ b, Check.optional leakKey false boolean sent = ok b ∧
    Json.get? told "onLeakPeriod" = some (.bool b)
  valued : (Json.get? told "value").isSome ↔ Json.get? told "status" ≠ some (.text "NO_VALUE")
  value : ∀ j, Json.get? told "value" = some j → (Key.word "value").sent? sent = some j
  errorThreshold : Json.get? told "errorThreshold" = errorKey.sent? sent
  warningThreshold : Json.get? told "warningThreshold" = warningKey.sent? sent
  bounded : (Json.get? told "errorThreshold").isSome ∨ (Json.get? told "warningThreshold").isSome

namespace Condition

variable {c : Condition} {m n : Json.Members}

theorem Told.valued (h : c.Told n) :
    (Json.get? n "value").isSome ↔ Json.get? n "status" ≠ some (.text "NO_VALUE") := by
  rw [h.value, h.status]
  cases hmeasure : c.measure with
  | noValue => simp [Measure.text?, Measure.statusName]
  | value status told =>
    have named : status.name ≠ "NO_VALUE" := by cases status <;> decide
    simp [Measure.text?, Measure.statusName, named]

theorem Told.echoes (told : c.Told n) (sent : c.Sent m) : Echoes m n where
  metric := told.metric.trans sent.metric.symm
  operator := told.operator.trans sent.operator.symm
  status := told.status.trans sent.status.symm
  onLeakPeriod := ⟨c.onLeakPeriod, sent.onLeakPeriod, told.onLeakPeriod⟩
  valued := told.valued
  value := by
    intro j hj
    rw [told.value] at hj
    obtain ⟨measured, htext, rfl⟩ := Option.map_eq_some_iff.1 hj
    exact sent.value measured htext
  errorThreshold := told.errorThreshold.trans sent.errorThreshold.symm
  warningThreshold := told.warningThreshold.trans sent.warningThreshold.symm
  bounded := by
    rw [told.errorThreshold, told.warningThreshold, Option.isSome_map, Option.isSome_map]
    exact c.bounded

end Condition

def GateEchoes (sent told : Json.Members) : Prop :=
  ∃ items, Json.get? told "conditions" = some (.array items) ∧
    List.Forall₂ (fun j item => ∃ m n, j = .object m ∧ item = .object n ∧ Condition.Echoes m n)
      (sentConditions sent) items

theorem forall₂_trans {α β γ : Type} {r : α → β → Prop} {q : β → γ → Prop} {p : α → γ → Prop}
    (h : ∀ a b c, r a b → q b c → p a c) {as : List α} {bs : List β} {cs : List γ}
    (first : List.Forall₂ r as bs) (second : List.Forall₂ q bs cs) : List.Forall₂ p as cs := by
  induction first generalizing cs with
  | nil =>
    cases second
    exact .nil
  | cons hab _ ih =>
    cases second with
    | cons hbc rest => exact .cons (h _ _ _ hab hbc) (ih rest)

theorem exists_of_forall₂ {α β : Type} {r : α → β → Prop} {as : List α} {bs : List β}
    (h : List.Forall₂ r as bs) {a : α} (ha : a ∈ as) : ∃ b, r a b := by
  induction h with
  | nil => cases ha
  | @cons _ b _ _ hab _ ih =>
    rcases List.mem_cons.1 ha with rfl | ha
    · exact ⟨b, hab⟩
    · exact ih ha

theorem QualityGate.Told.echoes {g : QualityGate} {m n : Json.Members} (told : g.Told n)
    (sent : g.Sent m) : GateEchoes m n := by
  obtain ⟨items, found, conditions⟩ := told.conditions
  refine ⟨items, found, forall₂_trans (fun j c item => ?_) sent conditions⟩
  rintro ⟨m, rfl, reads⟩ ⟨n, rfl, tells⟩
  exact ⟨m, n, rfl, rfl, tells.echoes reads⟩

structure TellsGate (members : Json.Members) (allStepsExecuted : Bool) (posted : Json.Members) :
    Prop where
  nullFree : (Json.object posted).NullFree
  gated : (Json.get? posted "qualityGate").isSome ↔
    (gateKey.sent? members).isSome ∧ allStepsExecuted = true
  gate : ∀ told, Json.get? posted "qualityGate" = some told →
    ∃ sent n, gateKey.sent? members = some (.object sent) ∧ told = .object n ∧ GateEchoes sent n

theorem ProjectAnalysis.Told.tellsGate {f : FinishedAnalysis} {server : Server} {now : Moment}
    {members posted : Json.Members} (nullFree : (Json.object posted).NullFree)
    (told : (f.report.outcome f.allStepsExecuted).Told server now posted)
    (hread : FinishedAnalysis.read (.object members) = ok f) :
    TellsGate members f.allStepsExecuted posted := by
  have sent := FinishedAnalysis.gate_of_read hread
  have gate := told.gate
  rw [AnalysisReport.gate_outcome] at gate
  refine ⟨nullFree, ?_, fun item found => ?_⟩
  all_goals
    revert sent gate
    generalize gateKey.sent? members = sentGate
    generalize f.report.gate = read
    generalize f.allStepsExecuted = steps
  · generalize Json.get? posted "qualityGate" = toldGate
    rintro (_ | _) gate <;> cases steps <;> cases gate <;> simp
  · rw [found]
    rintro (⟨m, rfl, reads⟩ | _) gate <;> cases steps <;> cases gate
    rename_i tells
    obtain ⟨n, rfl, tells⟩ := tells
    exact ⟨m, n, rfl, rfl, tells.echoes reads⟩

theorem refuses_finished {r : Request} (reports : r.IsFor .analysisFinished)
    (untold : ¬ ∃ f, Tells FinishedAnalysis.read r.body f) (s : Service) :
    r.Answers s 400 (r.counted s) := by
  have refuses : r.Refuses s FinishedAnalysis.read :=
    refuses_of_answers reports (by decide) rfl fun f tells => absurd ⟨f, tells⟩ untold
  obtain ⟨t, answered⟩ := refuses.bad.2 untold
  have same := refuses.counted t answered
  rwa [same] at answered

theorem not_read_of_lacking {members gate m : Json.Members}
    (sent : gateKey.sent? members = some (.object gate)) (hm : .object m ∈ sentConditions gate)
    (lacking : Condition.Lacking m) (f : FinishedAnalysis) :
    FinishedAnalysis.read (.object members) ≠ ok f := by
  intro hread
  have read := FinishedAnalysis.gate_of_read hread
  rw [sent] at read
  revert read
  generalize f.report.gate = toldGate
  rintro ⟨n, same, conditions⟩
  cases same
  obtain ⟨c, n, object, reads⟩ := exists_of_forall₂ conditions hm
  cases object
  exact reads.not_lacking lacking

theorem gates_told {r : Request} {members : Json.Members} (reports : r.IsFor .analysisFinished)
    (sent : Json.ofText? r.body = some (.object members)) (s : Service) :
    (∀ f, FinishedAnalysis.read (.object members) = ok f →
      ∃ new, ((handle .webhooks r).after s).calls = s.calls ++ new ∧ ∀ call ∈ new,
        ∃ posted, Json.parse? call.body = some (.object posted) ∧
          Json.ofText? call.body = some (.object posted) ∧
          TellsGate members f.allStepsExecuted posted) ∧
    ∀ gate m, gateKey.sent? members = some (.object gate) → .object m ∈ sentConditions gate →
      Condition.Lacking m → r.Answers s 400 (r.counted s) := by
  refine ⟨fun f hread => ?_, fun gate m hgate hm lacking => ?_⟩
  · obtain ⟨new, calls, bodies⟩ := calls_of_finished (finished?_of_read reports sent hread) s
    refine ⟨new, calls, fun call hcall => ?_⟩
    let a := f.report.outcome f.allStepsExecuted
    have keys : (a.properties.map (·.1)).Nodup := by
      rw [AnalysisReport.properties_outcome]
      exact FinishedAnalysis.nodup_keys_properties (Json.distinct_of_ofText? sent) hread
    have plain := ProjectAnalysis.plain_document keys s.server s.clock
    have nullFree := a.nullFree_document s.server s.clock
    have body : call.body = (a.document s.server s.clock).write := bodies call hcall
    obtain ⟨posted, document, told⟩ := a.told_document s.server s.clock
    rw [body, Json.parse?_write plain, Json.ofText?_write plain]
    rw [document] at nullFree ⊢
    exact ⟨posted, rfl, rfl, told.tellsGate nullFree hread⟩
  · refine refuses_finished reports ?_ s
    rintro ⟨f, others, same, hread⟩
    rw [sent] at same
    cases same
    exact not_read_of_lacking hgate hm lacking f hread

def gateReport (conditions : List Json) : Json.Members := [
  ("ceTaskId", .text "t"),
  ("project", .object [("uuid", .text "p"), ("key", .text "p"), ("name", .text "p")]),
  ("quality_gate", .object [("id", .text "g"), ("name", .text "g"), ("status", .text "ERROR"),
    ("conditions", .array conditions)]),
  ("analysis", .object [("uuid", .text "a"), ("date", .text "2026-10-18T12:00:00Z")])]

def idleCondition : Json := .object [
  ("status", .text "NO_VALUE"), ("metricKey", .text "m"), ("operator", .text "EQUALS"),
  ("error_threshold", .text "1"), ("warningThreshold", .null), ("value", .text "idle")]

def failedCondition : Json := .object [
  ("status", .text "ERROR"), ("metric_key", .text "n"), ("operator", .text "LESS_THAN"),
  ("onLeakPeriod", .text "yes"), ("warningThreshold", .text "2"), ("value", .text "3")]

def valuelessCondition : Json.Members := [
  ("status", .text "OK"), ("metricKey", .text "o"), ("operator", .text "EQUALS"),
  ("errorThreshold", .text "1"), ("value", .null)]

def gateFound : QualityGate :=
  ⟨"g", "g", .error, [⟨"m", .equals, .noValue, false, some "1", none, by decide⟩,
    ⟨"n", .lessThan, .value .error "3", true, none, some "2", by decide⟩]⟩

def gateFinished : FinishedAnalysis :=
  ⟨⟨"t", ⟨"p", "p", "p"⟩, none, some ⟨"a", noon⟩, some gateFound, []⟩, true, none⟩

theorem read_gateReport : FinishedAnalysis.read
    (.object (gateReport [idleCondition, failedCondition])) = .ok gateFinished := by
  rfl

theorem called_gateReport {r : Request} (h : r.finished? = some gateFinished) :
    ((handle .webhooks r).after { store := hookedStore }).calls ≠ [] := by
  intro none
  rw [calls_of_bare (bare_after_finished h _), Request.recorded, h] at none
  have called : ((tellAll (gateFinished.notices { store := hookedStore })).after
      { store := gateFinished.left noon hookedStore }).calls.length = 1 := by
    decide +kernel
  rw [← List.length_eq_zero_iff] at none
  exact absurd (called.symm.trans none) Nat.one_ne_zero

theorem gates_told_idle :
    let accepted := sending .analysisFinished
      (.object (gateReport [idleCondition, failedCondition]))
    let refused := sending .analysisFinished
      (.object (gateReport [idleCondition, .object valuelessCondition, failedCondition]))
    let s : Service := { store := hookedStore }
    accepted.IsFor .analysisFinished ∧ refused.IsFor .analysisFinished ∧
    (∃ call ∈ ((handle .webhooks accepted).after s).calls,
      ∃ posted, Json.ofText? call.body = some (.object posted) ∧
        TellsGate (gateReport [idleCondition, failedCondition]) true posted) ∧
    refused.Answers s 400 (refused.counted s) := by
  intro accepted refused s
  have acceptedFor : accepted.IsFor .analysisFinished := ⟨ofPath?_path .analysisFinished, rfl⟩
  have refusedFor : refused.IsFor .analysisFinished := ⟨ofPath?_path .analysisFinished, rfl⟩
  have sent : Json.ofText? accepted.body =
      some (.object (gateReport [idleCondition, failedCondition])) :=
    Json.ofText?_write (by simp [gateReport, idleCondition, failedCondition, Json.Plain.null])
  have resent : Json.ofText? refused.body = some (.object
      (gateReport [idleCondition, .object valuelessCondition, failedCondition])) :=
    Json.ofText?_write (by
      simp [gateReport, idleCondition, failedCondition, valuelessCondition, Json.Plain.null])
  have lacking : Condition.Lacking valuelessCondition := by
    have told : (Key.word "status").sent? valuelessCondition = some (.text "OK") := rfl
    exact .inr ⟨by simp [told], rfl⟩
  have between : .object valuelessCondition ∈
      [idleCondition, .object valuelessCondition, failedCondition] := by simp
  obtain ⟨new, calls, bodies⟩ := (gates_told acceptedFor sent s).1 _ read_gateReport
  have called := called_gateReport (finished?_of_read acceptedFor sent read_gateReport)
  obtain ⟨call, hcall⟩ := List.exists_mem_of_ne_nil _ called
  rw [calls] at hcall
  obtain ⟨posted, -, body, tells⟩ := bodies call hcall
  exact ⟨acceptedFor, refusedFor, ⟨call, calls ▸ hcall, posted, body, tells⟩,
    (gates_told refusedFor resent s).2 _ _ rfl between lacking⟩

end AnalysisWebhooks
