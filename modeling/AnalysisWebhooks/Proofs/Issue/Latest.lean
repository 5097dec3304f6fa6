import AnalysisWebhooks.Proofs.Issue.Extension
import AnalysisWebhooks.Proofs.Store.Keyed
import AnalysisWebhooks.Proofs.Store.Links

namespace AnalysisWebhooks

open Calendar

namespace Store

structure Leads (s : Store) (component : Component) (branch : BranchRow String)
    (snapshot : SnapshotRow String) (activity : ActivityRow String String) : Prop where
  components : s.components.filter (·.uuid = component.uuid) = [component]
  branches : s.branches.filter (·.uuid = component.uuid) = [branch]
  snapshots : lastRows component.uuid s.snapshots = [snapshot]
  activities : s.activities.filter (·.analysis = some snapshot.uuid) = [activity]

namespace Leads

variable {s t : Store} {component : Component} {branch : BranchRow String}
  {snapshot : SnapshotRow String} {activity : ActivityRow String String}

theorem others (h : s.Leads component branch snapshot activity)
    (frame : t = { s with properties := t.properties, deliveries := t.deliveries }) :
    t.Leads component branch snapshot activity := by
  rw [frame]
  exact ⟨h.components, h.branches, h.snapshots, h.activities⟩

variable (h : s.Leads component branch snapshot activity)
include h

theorem uuid_branch : branch.uuid = component.uuid := by
  have mem : branch ∈ s.branches.filter (·.uuid = component.uuid) := by
    rw [h.branches]
    exact List.mem_singleton_self branch
  exact of_decide_eq_true (List.mem_filter.1 mem).2

theorem find?_component :
    s.components.find? (fun row => RawText.plain row.uuid = .plain component.uuid) =
      some component := by
  simp only [RawText.plain.injEq]
  rw [← List.head?_filter, h.components, List.head?_singleton]

theorem lastComponent : s.lastComponent component.uuid = some component := by
  rw [Store.lastComponent, h.components, List.getLast?_singleton]

theorem lastSnapshot : s.lastSnapshot component.uuid = some snapshot := by
  have same : (s.snapshots.filter fun row => row.isLast && row.component = component.uuid) =
      lastRows component.uuid s.snapshots :=
    List.filter_congr fun row _ => Bool.and_comm _ _
  rw [Store.lastSnapshot, same, h.snapshots, List.getLast?_singleton]

theorem lastActivity : s.lastActivity snapshot.uuid = some activity := by
  rw [Store.lastActivity, h.activities, List.getLast?_singleton]

theorem notice?_eq {status : TaskStatus} (hstatus : activity.status = status.name) :
    s.notice? branch = some {
      configuration := s.configurationFor (some branch.project)
      subject := ⟨branch.project, some activity.uuid, some (.plain snapshot.uuid)⟩
      analysis := {
        task := ⟨activity.uuid, status⟩
        project := ⟨component.uuid, component.key, component.name⟩
        branch := some ⟨false, some (.plain branch.key), .short⟩
        analysis := none
        gate := none
        properties := []
        gated := by simp } } := by
  rw [notice?, h.uuid_branch, h.lastComponent, h.lastSnapshot]
  dsimp only [Option.bind_eq_bind, Option.bind_some]
  rw [h.lastActivity, Option.bind_some, hstatus, TaskStatus.lookup_name]
  rfl

theorem shortBranchRows_eq (short : branch.kind = "SHORT") {roots : List RawText}
    (only : ∀ root, root ∈ roots ↔ root = .plain component.uuid) :
    s.shortBranchRows roots = [branch] := by
  have same :
      (s.branches.filter fun row => row.kind = "SHORT" && roots.contains (.plain row.uuid)) =
      (s.branches.filter (·.uuid = component.uuid)).filter (·.kind = "SHORT") := by
    rw [List.filter_filter]
    refine List.filter_congr fun row _ => ?_
    have root : roots.contains (.plain row.uuid) = decide (row.uuid = component.uuid) := by
      rw [Bool.eq_iff_iff, List.contains_iff_mem, only, RawText.plain.injEq, decide_eq_true_eq]
    rw [root]
  rw [shortBranchRows, same, h.branches, List.filter_cons_of_pos (by simp [short])]
  rfl

end Leads

end Store

namespace ChangeSet

structure IsOf (c : ChangeSet) (component : String) : Prop where
  nonempty : c.issues ≠ []
  issues : ∀ i ∈ c.issues, i.component = .plain component
  components : c.components = []

variable {c : ChangeSet} {s : Store} {component : Component} {branch : BranchRow String}
  {snapshot : SnapshotRow String} {activity : ActivityRow String String} {main : String}

theorem IsOf.componentOf_eq (h : c.IsOf component.uuid)
    (leads : s.Leads component branch snapshot activity) {i : IssueRef} (hi : i ∈ c.issues) :
    c.componentOf s i = some component.ref := by
  rw [componentOf, h.components, h.issues i hi, leads.find?_component]
  rfl

theorem IsOf.mem_touched (h : c.IsOf component.uuid)
    (leads : s.Leads component branch snapshot activity) (side : component.mainProject = some main)
    {x : ComponentRef} : x ∈ c.touched s ↔ x = component.ref := by
  rw [touched, List.mem_filter, List.mem_filterMap]
  constructor
  · rintro ⟨⟨i, hi, hx⟩, -⟩
    rw [h.componentOf_eq leads hi, Option.some.injEq] at hx
    exact hx.symm
  · rintro rfl
    obtain ⟨i, hi⟩ := List.exists_mem_of_ne_nil c.issues h.nonempty
    exact ⟨⟨i, hi, h.componentOf_eq leads hi⟩, by rw [Component.ref, side]; rfl⟩

theorem IsOf.mem_roots_iff (h : c.IsOf component.uuid)
    (leads : s.Leads component branch snapshot activity) (side : component.mainProject = some main)
    (root : component.root = component.uuid) (uuid : RawText) :
    uuid ∈ c.roots s ↔ uuid = .plain component.uuid := by
  rw [roots, List.mem_map]
  simp only [h.mem_touched leads side, exists_eq_left, Component.ref, root]
  exact eq_comm

theorem IsOf.mem_mainProjects_self (h : c.IsOf component.uuid)
    (leads : s.Leads component branch snapshot activity)
    (side : component.mainProject = some main) : .plain main ∈ c.mainProjects s :=
  List.mem_filterMap.2 ⟨component.ref, (h.mem_touched leads side).2 rfl,
    by rw [Component.ref, side]; rfl⟩

theorem IsOf.missing_subset (h : c.IsOf component.uuid) : c.missing ⊆ [.plain component.uuid] := by
  intro uuid huuid
  obtain ⟨i, hi, rfl⟩ := List.mem_map.1 (List.mem_eraseDups.1 (List.mem_of_mem_filter huuid))
  exact List.mem_singleton.2 (h.issues i hi)

theorem IsOf.askable (h : c.IsOf component.uuid)
    (leads : s.Leads component branch snapshot activity) (side : component.mainProject = some main)
    (root : component.root = component.uuid) : c.Askable s where
  components :=
    (Store.binds_singleton _).of_nodup ((nodup_eraseDups _).filter _) h.missing_subset
  mainProjects := by
    intro project hproject
    obtain ⟨x, hx, hmain⟩ := List.mem_filterMap.1 hproject
    rw [(h.mem_touched leads side).1 hx, Component.ref, side] at hmain
    cases hmain
    rfl
  roots := by
    refine (Store.binds_singleton component.uuid).of_nodup (nodup_eraseDups _) fun uuid huuid => ?_
    rw [List.mem_eraseDups, h.mem_roots_iff leads side root] at huuid
    exact List.mem_singleton.2 huuid

theorem IsOf.notices_eq (h : c.IsOf component.uuid)
    (leads : s.Leads component branch snapshot activity)
    (side : component.mainProject = some branch.project) (root : component.root = component.uuid)
    (short : branch.kind = "SHORT") {n : Notice} (hn : s.notice? branch = some n) :
    c.notices s = [n] := by
  have main : (c.mainProjects s).contains (.plain branch.project) = true :=
    List.contains_iff_mem.2 (h.mem_mainProjects_self leads side)
  have kept :
      [branch].filter (fun row => (c.mainProjects s).contains (.plain row.project)) = [branch] :=
    List.filter_cons_of_pos main
  rw [notices, leads.shortBranchRows_eq short (h.mem_roots_iff leads side root), kept,
    List.filterMap_cons, hn, List.filterMap_nil]

theorem target_of_notice {n : Notice} (askable : c.Askable s) (readable : s.Readable (c.roots s))
    (single : c.notices s = [n]) (enabled : n.configuration.isEnabled = true) :
    ∃ lookup t, c.lookUp s = .ok (some lookup) ∧ lookup.targets = [(n.configuration, t)] ∧
      t.subject = n.subject ∧ t.outcome = n.analysis := by
  have kept : (c.notices s).filter (·.configuration.isEnabled) = [n] := by
    rw [single]
    exact List.filter_cons_of_pos enabled
  obtain ⟨-, empty⟩ | ⟨lookup, hlookup, targets⟩ := c.lookUp_of_askable askable readable
  · rw [kept] at empty
    cases empty
  · rw [kept] at targets
    obtain ⟨⟨configuration, t⟩, htargets, rfl⟩ := List.map_eq_singleton_iff.1 targets
    exact ⟨lookup, t, hlookup, htargets, rfl, rfl⟩

end ChangeSet

end AnalysisWebhooks
