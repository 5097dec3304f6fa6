import AnalysisWebhooks.Proofs.Json.RoundTrip
import AnalysisWebhooks.Proofs.Text.Encoding
import AnalysisWebhooks.Webhook.Notification
import Mathlib.Data.List.Forall2
import Mathlib.Data.List.Nodup

namespace AnalysisWebhooks

open Calendar

section Members

variable {entries : List (String × Option Json)}

theorem presentMembers_none (key : String) :
    presentMembers ((key, none) :: entries) = presentMembers entries := rfl

theorem presentMembers_some (key : String) (j : Json) :
    presentMembers ((key, some j) :: entries) = (.plain key, j) :: presentMembers entries := rfl

theorem mem_presentMembers {m : RawText × Json} :
    m ∈ presentMembers entries ↔ ∃ key, m.1 = .plain key ∧ (key, some m.2) ∈ entries := by
  obtain ⟨key, j⟩ := m
  simp only [presentMembers, List.mem_filterMap, Option.map_eq_some_iff]
  constructor
  · rintro ⟨⟨k, v⟩, h, j', rfl, heq⟩
    cases heq
    exact ⟨k, rfl, h⟩
  · rintro ⟨k, rfl, h⟩
    exact ⟨(k, some j), h, j, rfl, rfl⟩

theorem keys_presentMembers :
    (presentMembers entries).map (·.1) =
      ((entries.filter (·.2.isSome)).map (·.1)).map .plain := by
  induction entries with
  | nil => rfl
  | cons e rest ih =>
    obtain ⟨key, value⟩ := e
    cases value with
    | none => exact ih
    | some j => exact congrArg (RawText.plain key :: ·) ih

theorem nodup_keys_presentMembers (h : (entries.map (·.1)).Nodup) :
    ((presentMembers entries).map (·.1)).Nodup := by
  rw [keys_presentMembers]
  exact (h.sublist (List.filter_sublist.map _)).map RawText.plain_injective

theorem get?_presentMembers (h : (entries.map (·.1)).Nodup) (key : String) :
    Json.get? (presentMembers entries) key = (entries.lookup key).join := by
  induction entries with
  | nil => rfl
  | cons e rest ih =>
    obtain ⟨k, value⟩ := e
    obtain ⟨hk, hrest⟩ := List.nodup_cons.1 h
    have ih := ih hrest
    by_cases hkey : key = k
    · subst hkey
      have hlookup : rest.lookup key = none := by
        refine List.lookup_eq_none_iff.2 fun p hp => ?_
        simpa using fun heq : key = p.1 => hk (heq ▸ List.mem_map.2 ⟨p, hp, rfl⟩)
      rw [hlookup] at ih
      cases value with
      | none => simp [presentMembers_none, ih]
      | some j => simp [presentMembers_some, Json.get?]
    · have hne : (key == k) = false := by simpa using hkey
      have hraw : (RawText.plain key == .plain k) = false := by simpa using hkey
      rw [List.lookup_cons, hne, ← ih]
      cases value with
      | none => rw [presentMembers_none]
      | some j => rw [presentMembers_some, Json.get?, List.lookup_cons, hraw, Json.get?]

theorem rel_map {α β : Type} {r : α → β → Prop} (f : α → β) (h : ∀ a, r a (f a))
    (value : Option α) : Option.Rel r value (value.map f) := by
  cases value with
  | none => exact .none
  | some a => exact .some (h a)

def keyOf {α : Type} (value : Option α) (key : String) : List String :=
  if value.isSome then [key] else []

end Members

namespace Condition

structure Told (c : Condition) (m : Json.Members) : Prop where
  keys : m.map (·.1) = (["metric", "operator"] ++ keyOf c.measure.text? "value" ++
    ["status", "onLeakPeriod"] ++ keyOf c.errorThreshold "errorThreshold" ++
    keyOf c.warningThreshold "warningThreshold").map .plain
  metric : Json.get? m "metric" = some (.text c.metric)
  operator : Json.get? m "operator" = some (.text c.operator.name)
  value : Json.get? m "value" = c.measure.text?.map .text
  status : Json.get? m "status" = some (.text c.measure.statusName)
  onLeakPeriod : Json.get? m "onLeakPeriod" = some (.bool c.onLeakPeriod)
  errorThreshold : Json.get? m "errorThreshold" = c.errorThreshold.map .text
  warningThreshold : Json.get? m "warningThreshold" = c.warningThreshold.map .text

theorem told_document (c : Condition) : ∃ m, c.document = .object m ∧ c.Told m := by
  have hkeys : ["metric", "operator", "value", "status", "onLeakPeriod", "errorThreshold",
    "warningThreshold"].Nodup := by decide
  refine ⟨_, rfl, ?_, ?_, ?_, ?_, ?_, ?_, ?_, ?_⟩
  · rw [keys_presentMembers]
    cases c.measure.text? <;> cases c.errorThreshold <;> cases c.warningThreshold <;> rfl
  all_goals
    rw [get?_presentMembers]
    · rfl
    · exact hkeys

end Condition

namespace QualityGate

structure Told (g : QualityGate) (m : Json.Members) : Prop where
  keys : m.map (·.1) = ["name", "status", "conditions"].map .plain
  name : Json.get? m "name" = some (.text g.name)
  status : Json.get? m "status" = some (.text g.status.name)
  conditions : ∃ items, Json.get? m "conditions" = some (.array items) ∧
    List.Forall₂ (fun c j => ∃ n, j = .object n ∧ c.Told n) g.conditions items

theorem told_document (g : QualityGate) : ∃ m, g.document = .object m ∧ g.Told m := by
  refine ⟨_, rfl, rfl, rfl, rfl, _, rfl, ?_⟩
  rw [List.forall₂_map_right_iff, List.forall₂_same]
  exact fun c _ => c.told_document

end QualityGate

namespace Project

structure Told (p : Project) (server : Server) (m : Json.Members) : Prop where
  keys : m.map (·.1) = ["key", "name", "url"].map .plain
  key : Json.get? m "key" = some (.text p.key)
  name : Json.get? m "name" = some (.text p.name)
  url : Json.get? m "url" = some (.text (server.projectLink p.key.shown))

theorem told_document (p : Project) (server : Server) :
    ∃ m, p.document server = .object m ∧ p.Told server m :=
  ⟨_, rfl, rfl, rfl, rfl, rfl⟩

end Project

namespace Branch

structure Told (b : Branch) (server : Server) (projectKey : RawText) (m : Json.Members) :
    Prop where
  keys : m.map (·.1) = (keyOf b.name "name" ++ ["type", "isMain", "url"]).map .plain
  name : Json.get? m "name" = b.name.map .text
  kind : Json.get? m "type" = some (.text b.kind.name)
  isMain : Json.get? m "isMain" = some (.bool b.isMain)
  url : Json.get? m "url" = some (.text (server.branchLink projectKey.shown b))

theorem told_document (b : Branch) (server : Server) (projectKey : RawText) :
    ∃ m, b.document server projectKey = .object m ∧ b.Told server projectKey m := by
  have hkeys : ["name", "type", "isMain", "url"].Nodup := by decide
  refine ⟨_, rfl, ?_, ?_, ?_, ?_, ?_⟩
  · rw [keys_presentMembers]
    cases b.name <;> rfl
  all_goals
    rw [get?_presentMembers]
    · rfl
    · exact hkeys

end Branch

namespace ProjectAnalysis

structure Told (a : ProjectAnalysis) (server : Server) (now : Moment) (m : Json.Members) :
    Prop where
  keys : m.map (·.1) = (["serverUrl", "taskId", "status"] ++ keyOf a.analysis "analysedAt" ++
    ["changedAt", "project"] ++ keyOf a.branch "branch" ++ keyOf a.gate "qualityGate" ++
    ["properties"]).map .plain
  serverUrl : Json.get? m "serverUrl" = some (.text server.url)
  taskId : Json.get? m "taskId" = some (.text a.task.id)
  status : Json.get? m "status" = some (.text a.task.status.name)
  analysedAt : Json.get? m "analysedAt" = a.analysis.map fun info => .text info.date.publicText
  changedAt : Json.get? m "changedAt" =
    some (.text ((a.analysis.map (·.date)).getD now).publicText)
  project : ∃ n, Json.get? m "project" = some (.object n) ∧ a.project.Told server n
  branch : Option.Rel (fun b j => ∃ n, j = .object n ∧ b.Told server a.project.key n) a.branch
    (Json.get? m "branch")
  gate : Option.Rel (fun g j => ∃ n, j = .object n ∧ g.Told n) a.gate (Json.get? m "qualityGate")
  properties : Json.get? m "properties" = some (.object
    ((a.properties.filter fun p => (RawText.plain "sonar.analysis.").units <+: p.1.units).map
      fun p => (p.1, .text p.2)))

def IsLinkable (a : ProjectAnalysis) : Prop :=
  ∀ text ∈ a.linkTexts, text.isUnicode = true

instance (a : ProjectAnalysis) : Decidable a.IsLinkable :=
  inferInstanceAs (Decidable (∀ _ ∈ _, _))

theorem createPayload_eq_ok {a : ProjectAnalysis} (h : a.IsLinkable) (server : Server)
    (now : Moment) : a.createPayload server now = .ok (a.payload server now) := by
  obtain ⟨texts, htexts⟩ := RawText.exists_mapM_encoded.2 h
  exact bind_eq_ok.2 ⟨texts, htexts, rfl⟩

def entries (a : ProjectAnalysis) (server : Server) (now : Moment) :
    List (String × Option Json) := [
  ("serverUrl", some (.text server.url)),
  ("taskId", some (.text a.task.id)),
  ("status", some (.text a.task.status.name)),
  ("analysedAt", a.analysis.map fun info => .text info.date.publicText),
  ("changedAt", some (.text ((a.analysis.map (·.date)).getD now).publicText)),
  ("project", some (a.project.document server)),
  ("branch", a.branch.map fun b => b.document server a.project.key),
  ("qualityGate", a.gate.map QualityGate.document),
  ("properties", some (.object (a.publicProperties.map fun p => (p.1, .text p.2))))]

theorem publicProperties_eq (a : ProjectAnalysis) : a.publicProperties =
    a.properties.filter fun p => (RawText.plain "sonar.analysis.").units <+: p.1.units :=
  List.filter_congr fun _ _ => Bool.eq_iff_iff.2 <|
    List.isPrefixOf_iff_prefix.trans decide_eq_true_iff.symm

theorem nodup_keys_entries (a : ProjectAnalysis) (server : Server) (now : Moment) :
    ((a.entries server now).map (·.1)).Nodup := by
  have hkeys : ["serverUrl", "taskId", "status", "analysedAt", "changedAt", "project", "branch",
    "qualityGate", "properties"].Nodup := by decide
  exact hkeys

theorem document_eq (a : ProjectAnalysis) (server : Server) (now : Moment) :
    a.document server now = .object (presentMembers (a.entries server now)) := by
  obtain ⟨task, project, branch, analysis, gate, properties, gated⟩ := a
  cases analysis <;> cases branch <;> cases gate <;> rfl

theorem told_document (a : ProjectAnalysis) (server : Server) (now : Moment) :
    ∃ m, a.document server now = .object m ∧ a.Told server now m := by
  have hget (key : String) : Json.get? (presentMembers (a.entries server now)) key =
      ((a.entries server now).lookup key).join :=
    get?_presentMembers (a.nodup_keys_entries server now) key
  refine ⟨_, a.document_eq server now, ?_, hget _, hget _, hget _, hget _, hget _, ?_, ?_, ?_, ?_⟩
  · rw [keys_presentMembers, entries]
    cases a.analysis <;> cases a.branch <;> cases a.gate <;> rfl
  · obtain ⟨n, hn, told⟩ := a.project.told_document server
    exact ⟨n, (hget _).trans (congrArg some hn), told⟩
  · rw [hget]
    exact rel_map _ (fun b => b.told_document server a.project.key) a.branch
  · rw [hget]
    exact rel_map QualityGate.document QualityGate.told_document a.gate
  · rw [hget, ← publicProperties_eq]
    rfl

end ProjectAnalysis

end AnalysisWebhooks
