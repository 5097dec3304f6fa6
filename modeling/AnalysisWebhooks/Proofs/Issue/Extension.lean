import AnalysisWebhooks.Proofs.Issue.Posting
import AnalysisWebhooks.Proofs.Store.Written

namespace AnalysisWebhooks

open Calendar

namespace Store

def Dated (s : Store) (roots : List RawText) : Prop :=
  ∀ branch ∈ s.shortBranchRows roots, ∀ row ∈ s.snapshots,
    row.isLast = true → row.component = branch.uuid → IsDated row.createdAt

variable {s : Store} {roots more : List RawText}

theorem mem_shortBranchRows {row : BranchRow String} : row ∈ s.shortBranchRows roots ↔
    row ∈ s.branches ∧ row.kind = "SHORT" ∧ .plain row.uuid ∈ roots := by
  rw [shortBranchRows, mem_sorted, List.mem_filter, Bool.and_eq_true, decide_eq_true_eq,
    List.contains_iff_mem]

theorem shortBranchRows_subset (h : roots ⊆ more) :
    s.shortBranchRows roots ⊆ s.shortBranchRows more := by
  intro row hrow
  obtain ⟨hmem, hkind, hroot⟩ := mem_shortBranchRows.1 hrow
  exact mem_shortBranchRows.2 ⟨hmem, hkind, h hroot⟩

theorem Written.readable_iff (h : s.Written) : s.Readable roots ↔ s.Dated roots := by
  constructor
  · intro readable branch hbranch row hrow hlast hcomponent
    obtain ⟨r, hread⟩ := readable.snapshots branch hbranch row hrow hlast hcomponent
    obtain ⟨u, hu⟩ := h.snapshots row hrow
    have hinstant := (SnapshotRow.read_eq_ok.1 hread).1
    rw [hu] at hinstant
    exact ⟨u, hu, (exists_readStored_utcChars u).1 ⟨_, hinstant⟩⟩
  · intro dated
    refine ⟨fun row hrow _ => ?_, fun branch hbranch row hrow hlast hcomponent => ?_,
      fun _ _ _ _ row hrow _ => (h.activities row hrow).exists_read⟩
    · obtain ⟨kind, hkind⟩ := h.branches row hrow
      exact ⟨{ row with kind }, BranchRow.read_eq_ok.2 ⟨hkind, rfl⟩⟩
    · obtain ⟨createdAt, hread⟩ := (dated branch hbranch row hrow hlast hcomponent).exists_read
      exact ⟨{ row with createdAt }, SnapshotRow.read_eq_ok.2 ⟨hread, rfl⟩⟩

end Store

structure ChangeSet.Extends (c more : ChangeSet) : Prop where
  components : more.components = c.components
  issues : c.issues ⊆ more.issues

namespace ChangeSet.Extends

variable {c more : ChangeSet} {s : Store} (h : c.Extends more)
include h

theorem componentOf_eq (i : IssueRef) : more.componentOf s i = c.componentOf s i := by
  rw [componentOf, componentOf, h.components]

theorem touched_subset : c.touched s ⊆ more.touched s := by
  intro x hx
  obtain ⟨hx, hmain⟩ := List.mem_filter.1 hx
  obtain ⟨i, hi, hcomponent⟩ := List.mem_filterMap.1 hx
  refine List.mem_filter.2 ⟨List.mem_filterMap.2 ⟨i, h.issues hi, ?_⟩, hmain⟩
  rw [h.componentOf_eq, hcomponent]

theorem roots_subset : c.roots s ⊆ more.roots s :=
  List.map_subset _ h.touched_subset

theorem mainProjects_subset : c.mainProjects s ⊆ more.mainProjects s :=
  List.filterMap_subset _ h.touched_subset

theorem notices_subset : c.notices s ⊆ more.notices s := by
  refine List.filterMap_subset _ fun row hrow => ?_
  obtain ⟨hrow, hmain⟩ := List.mem_filter.1 hrow
  rw [List.contains_iff_mem] at hmain
  refine List.mem_filter.2 ⟨Store.shortBranchRows_subset h.roots_subset hrow, ?_⟩
  rw [List.contains_iff_mem]
  exact h.mainProjects_subset hmain

end ChangeSet.Extends

namespace IssueAction

variable {action : IssueAction} {c more : ChangeSet} {context : ChangeContext} {s : Service}

theorem Counts.extends (h : action.Counts c context s) (extended : c.Extends more) :
    action.Counts more context s where
  enabled := h.enabled
  issues := fun hnil => h.issues (List.subset_nil.1 (hnil ▸ extended.issues))
  login := h.login
  meaningful := h.meaningful

def Posts (action : IssueAction) (c : ChangeSet) (context : ChangeContext) (s : Service)
    (row : BranchRow String) : Prop :=
  ∃ n, s.store.notice? row = some n ∧
    Posted (s.bodyOf n.analysis) s ((action.react c context).after s)

theorem Posts.extends {row : BranchRow String} (h : action.Posts c context s row)
    (quiet : s.network.Quiet) (extended : c.Extends more)
    (resolved : more.Askable s.store ∧ s.store.Readable (more.roots s.store)) :
    action.Posts more context s row := by
  obtain ⟨n, hn, posted⟩ := h
  obtain ⟨counts, -, told, htold, addressed, hbody⟩ := (posted_react quiet).1 posted
  exact ⟨n, hn, (posted_react quiet).2 ⟨counts.extends extended, resolved, told,
    extended.notices_subset htold, addressed, hbody⟩⟩

theorem Posts.resolved {row : BranchRow String} (h : action.Posts c context s row)
    (quiet : s.network.Quiet) : c.Askable s.store ∧ s.store.Readable (c.roots s.store) := by
  obtain ⟨n, -, posted⟩ := h
  exact ((posted_react quiet).1 posted).2.1

end IssueAction

end AnalysisWebhooks
