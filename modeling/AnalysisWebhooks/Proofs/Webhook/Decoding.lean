import AnalysisWebhooks.Analysis.Document
import AnalysisWebhooks.Proofs.Webhook.Told

namespace AnalysisWebhooks

open Calendar

theorem plain_presentMembers {entries : List (String × Option Json)}
    (keys : (entries.map (·.1)).Nodup) (h : ∀ e ∈ entries, ∀ j ∈ e.2, j.Plain) :
    (Json.object (presentMembers entries)).Plain := by
  refine .object (nodup_keys_presentMembers keys) fun m hm => ?_
  obtain ⟨key, -, hkey⟩ := mem_presentMembers.1 hm
  exact h _ hkey m.2 rfl

theorem plain_texts {entries : List (RawText × RawText)} (keys : (entries.map (·.1)).Nodup) :
    (Json.object (entries.map fun p => (p.1, .text p.2))).Plain := by
  refine .object ?_ (List.forall_mem_map.2 fun p _ => .text p.2)
  rwa [List.map_map]

theorem Condition.plain_document (c : Condition) : c.document.Plain := by
  apply plain_presentMembers
  · simp
  · simp

theorem QualityGate.plain_document (g : QualityGate) : g.document.Plain := by
  refine .object (by simp) ?_
  simp only [List.forall_mem_cons]
  exact ⟨.text _, .text _, .array (List.forall_mem_map.2 fun c _ => c.plain_document),
    List.forall_mem_nil _⟩

theorem Project.plain_document (p : Project) (server : Server) : (p.document server).Plain :=
  .object (by simp) (by simp)

theorem Branch.plain_document (b : Branch) (server : Server) (projectKey : RawText) :
    (b.document server projectKey).Plain := by
  apply plain_presentMembers
  · simp
  · simp

theorem ProjectAnalysis.plain_document {a : ProjectAnalysis} (h : (a.properties.map (·.1)).Nodup)
    (server : Server) (now : Moment) : (a.document server now).Plain := by
  have hproperties := plain_texts (h.sublist (List.filter_sublist.map _) :
    (a.publicProperties.map (·.1)).Nodup)
  rw [document_eq]
  refine plain_presentMembers (a.nodup_keys_entries server now) ?_
  simp [entries, Project.plain_document, Branch.plain_document,
    QualityGate.plain_document, hproperties]

theorem Check.keys_values {α : Type} {read : Json → Check α} {members : Json.Members}
    {values : List (RawText × α)} (h : Check.values read members = .ok values) :
    values.map (·.1) = members.map (·.1) := by
  induction members generalizing values with
  | nil =>
    cases h
    rfl
  | cons m rest ih =>
    obtain ⟨f, more, hf, hmore, rfl⟩ := Check.seq_eq_ok.1 h
    obtain ⟨a, -, rfl⟩ := Check.map_eq_ok.1 hf
    rw [List.map_cons, List.map_cons, ih hmore]

theorem Json.Distinct.of_get? {members : Json.Members} (h : (Json.object members).Distinct)
    {key : String} {j : Json} (hj : Json.get? members key = some j) : j.Distinct := by
  obtain ⟨before, after, rfl, -⟩ := List.lookup_eq_some_iff.1 hj
  cases h with
  | object keys h => exact h (key, j) (List.mem_append_right before List.mem_cons_self)

theorem Json.Distinct.of_find? {members : Json.Members} (h : (Json.object members).Distinct)
    {k : Key} {name : String} {j : Json} (hj : k.find? members = some (name, j)) :
    j.Distinct := by
  unfold Key.find? at hj
  split at hj
  · rename_i hcamel
    cases hj
    exact h.of_get? hcamel
  · obtain ⟨_, hsnake, heq⟩ := Option.map_eq_some_iff.1 hj
    cases heq
    exact h.of_get? hsnake

theorem Check.nodup_keys_mapping {α : Type} {read : Json → Check α} {j : Json} (h : j.Distinct)
    {values : List (RawText × α)} (hread : Check.mapping read j = .ok values) :
    (values.map (·.1)).Nodup := by
  cases h with
  | object keys _ => rwa [Check.keys_values hread]
  | _ => cases hread

theorem AnalysisReport.nodup_keys_properties {members : Json.Members} {report : AnalysisReport}
    (h : (Json.object members).Distinct) (hread : ofMembers members = .ok report) :
    (report.properties.map (·.1)).Nodup := by
  obtain ⟨_, properties, hgate, hproperties, rfl⟩ := Check.seq_eq_ok.1 hread
  obtain ⟨_, _, hanalysis, -, rfl⟩ := Check.seq_eq_ok.1 hgate
  obtain ⟨_, _, hbranch, -, rfl⟩ := Check.seq_eq_ok.1 hanalysis
  obtain ⟨_, _, hproject, -, rfl⟩ := Check.seq_eq_ok.1 hbranch
  obtain ⟨_, _, htask, -, rfl⟩ := Check.seq_eq_ok.1 hproject
  obtain ⟨_, -, rfl⟩ := Check.map_eq_ok.1 htask
  unfold Check.optional at hproperties
  split at hproperties
  · rename_i hfind
    exact Check.nodup_keys_mapping (h.of_find? hfind) (Check.within_eq_ok.1 hproperties)
  · cases hproperties
    exact List.nodup_nil

end AnalysisWebhooks
