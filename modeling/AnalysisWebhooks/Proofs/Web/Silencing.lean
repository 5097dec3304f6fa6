import AnalysisWebhooks.Proofs.Issue.Extension
import AnalysisWebhooks.Proofs.Web.Sending

namespace AnalysisWebhooks

open AnalysisWebhooks.Action Calendar

inductive Reached : Store → Prop
  | empty : Reached {}
  | request {s : Service} (r : Request) (reached : Reached s.store) (four : s.clock.IsFourDigit) :
      Reached ((handle .webhooks r).after s).store

theorem Reached.written {s : Store} (h : Reached s) : s.Written := by
  induction h with
  | empty => exact ⟨by simp, by simp, by simp⟩
  | @request s r _ four ih => exact ih.edits four (edits_handle r s)

theorem posts_of_extends_iff {action : IssueAction} {c more : ChangeSet} {context : ChangeContext}
    {s : Service} (reached : Reached s.store) (quiet : s.network.Quiet)
    (extended : c.Extends more) :
    ((∀ row ∈ s.store.branches, action.Posts c context s row → action.Posts more context s row) ↔
      (∀ row ∈ s.store.branches, ¬ action.Posts c context s row) ∨
        more.Askable s.store ∧ s.store.Dated (more.roots s.store)) ∧
    (¬ (more.Askable s.store ∧ s.store.Dated (more.roots s.store)) →
      ∀ row, ¬ action.Posts more context s row) := by
  rw [← reached.written.readable_iff]
  constructor
  · constructor
    · intro kept
      by_cases silent : ∀ row ∈ s.store.branches, ¬ action.Posts c context s row
      · exact .inl silent
      · push Not at silent
        obtain ⟨row, hrow, posts⟩ := silent
        exact .inr ((kept row hrow posts).resolved quiet)
    · rintro (silent | resolved) row hrow posts
      · exact absurd posts (silent row hrow)
      · exact posts.extends quiet extended resolved
  · exact fun unresolved row posts => unresolved (posts.resolved quiet)

theorem isFourDigit_noon : noon.IsFourDigit :=
  ⟨noon, rfl, by decide⟩

theorem Reached.requested {store : Store} (h : Reached store) (r : Request) :
    Reached (store.requested r) :=
  .request (s := { store }) r h isFourDigit_noon

def finishing (uuid date : String) : Request :=
  sending .analysisFinished <| .object [
    ("ceTaskId", .text uuid),
    ("project", .object [("uuid", .text uuid), ("key", .text uuid), ("name", .text uuid)]),
    ("branch", .object [("isMain", .bool false), ("type", .text "SHORT")]),
    ("analysis", .object [("uuid", .text uuid), ("date", .text date)]),
    ("mainBranchProjectUuid", .text "p")]

def setting (key value : String) : Request :=
  sending .setSetting (.object [("key", .text key), ("value", .text value)])

theorem requested_setting (key value : String) (store : Store) :
    store.requested (setting key value) =
      { store with properties := (store.withoutProperty key none).properties ++
          [⟨key, none, some value, "2026-10-18T12:00:00.000000Z"⟩] } := by
  have told : SetSetting.read (.object [("key", .text key), ("value", .text value)]) =
      .ok ⟨key, .one value, none⟩ := rfl
  exact @requested_set _ key value none (by simp) told store

def datedStore : Store where
  components := [⟨"b", "b", "b", "b", some "p"⟩]
  branches := [⟨"b", "p", "b", "SHORT"⟩]
  snapshots := [⟨"b", "b", "P", true, "2026-10-18T00:00:00.000000Z"⟩]
  activities := [⟨"b", "REPORT", some "b", some "b", "SUCCESS", true, "2026-10-18T12:00:00.000000Z",
    some "2026-10-18T12:00:00.000000Z"⟩]

theorem requested_finishing_dated :
    ({} : Store).requested (finishing "b" "2026-10-18") = datedStore := by
  rw [finishing, requested_unhooked ?_ rfl]
  · decide +kernel
  · simp

def mixedStore : Store where
  components := datedStore.components ++ [⟨"o", "o", "o", "o", some "p"⟩]
  branches := datedStore.branches ++ [⟨"o", "p", "o", "SHORT"⟩]
  snapshots := datedStore.snapshots ++ [⟨"o", "o", "P", true, "500-10-18T00:00:00.000000Z"⟩]
  activities := datedStore.activities ++ [⟨"o", "REPORT", some "o", some "o", "SUCCESS", true,
    "2026-10-18T12:00:00.000000Z", some "2026-10-18T12:00:00.000000Z"⟩]

theorem requested_finishing_old :
    datedStore.requested (finishing "o" "0500-10-18") = mixedStore := by
  rw [finishing, requested_unhooked ?_ rfl]
  · decide +kernel
  · simp

def hookedStore : Store :=
  { mixedStore with
    properties := [⟨"sonar.webhooks.global", none, some "h", "2026-10-18T12:00:00.000000Z"⟩,
      ⟨"sonar.webhooks.global.h.name", none, some "h", "2026-10-18T12:00:00.000000Z"⟩,
      ⟨"sonar.webhooks.global.h.url", none, some "http://h", "2026-10-18T12:00:00.000000Z"⟩] }

theorem requested_settings :
    ((mixedStore.requested (setting "sonar.webhooks.global" "h")).requested
      (setting "sonar.webhooks.global.h.name" "h")).requested
        (setting "sonar.webhooks.global.h.url" "http://h") = hookedStore := by
  rw [requested_setting, requested_setting, requested_setting]
  decide +kernel

theorem reached_hookedStore : Reached hookedStore := by
  rw [← requested_settings, ← requested_finishing_old, ← requested_finishing_dated]
  exact ((((Reached.empty.requested _).requested _).requested _).requested _).requested _

def resolving : IssueAction :=
  .transition (some "resolve")

def issuesOf (components : List String) : ChangeSet :=
  ⟨components.map fun uuid => ⟨.plain uuid, .plain uuid⟩, []⟩

theorem extends_issuesOf {components more : List String} (h : components ⊆ more) :
    (issuesOf components).Extends (issuesOf more) :=
  ⟨rfl, List.map_subset _ h⟩

theorem resolving_posts :
    resolving.Posts (issuesOf ["b"]) (.user "user" noon) { store := hookedStore }
      ⟨"b", "p", "b", "SHORT"⟩ := by
  have counts : resolving.Counts (issuesOf ["b"]) (.user "user" noon) { store := hookedStore } :=
    ⟨rfl, by decide, rfl, by decide⟩
  have resolved : (issuesOf ["b"]).Askable hookedStore ∧
      hookedStore.Readable ((issuesOf ["b"]).roots hookedStore) := ChangeSet.askable_of_lookUp rfl
  have only : (issuesOf ["b"]).notices hookedStore =
      (hookedStore.notice? ⟨"b", "p", "b", "SHORT"⟩).toList := by decide +kernel
  obtain ⟨n, hn⟩ : ∃ n, hookedStore.notice? ⟨"b", "p", "b", "SHORT"⟩ = some n :=
    Option.isSome_iff_exists.1 (by decide +kernel)
  have addressed : ∀ n ∈ hookedStore.notice? ⟨"b", "p", "b", "SHORT"⟩, n.IsAddressed := by
    decide +kernel
  refine ⟨n, hn, (IssueAction.posted_react Network.quiet_default).2
    ⟨counts, resolved, n, ?_, addressed n hn, rfl⟩⟩
  rw [only, hn]
  exact List.mem_singleton_self n

theorem not_readable_mixed (askable : (issuesOf ["b", "o"]).Askable hookedStore) :
    ¬ hookedStore.Readable ((issuesOf ["b", "o"]).roots hookedStore) := by
  intro readable
  have failed : ((issuesOf ["b", "o"]).lookUp hookedStore).toBool = false := by decide +kernel
  obtain ⟨h, -⟩ | ⟨lookup, h, -⟩ := ChangeSet.lookUp_of_askable askable readable
  all_goals
    rw [h] at failed
    cases failed

theorem posts_of_extends_iff_dated : Reached hookedStore ∧
    resolving.Posts (issuesOf ["b"]) (.user "user" noon) { store := hookedStore }
      ⟨"b", "p", "b", "SHORT"⟩ ∧
    (issuesOf ["b", "x"]).Askable hookedStore ∧
    hookedStore.Dated ((issuesOf ["b", "x"]).roots hookedStore) ∧
    resolving.Posts (issuesOf ["b", "x"]) (.user "user" noon) { store := hookedStore }
      ⟨"b", "p", "b", "SHORT"⟩ := by
  obtain ⟨askable, readable⟩ : (issuesOf ["b", "x"]).Askable hookedStore ∧
      hookedStore.Readable ((issuesOf ["b", "x"]).roots hookedStore) :=
    ChangeSet.askable_of_lookUp rfl
  have dated := reached_hookedStore.written.readable_iff.1 readable
  have more : (issuesOf ["b"]).Extends (issuesOf ["b", "x"]) := extends_issuesOf (by decide)
  have kept : ∀ row ∈ hookedStore.branches,
      resolving.Posts (issuesOf ["b"]) (.user "user" noon) { store := hookedStore } row →
      resolving.Posts (issuesOf ["b", "x"]) (.user "user" noon) { store := hookedStore } row :=
    (posts_of_extends_iff (s := { store := hookedStore }) reached_hookedStore
      Network.quiet_default more).1.2 (.inr ⟨askable, dated⟩)
  exact ⟨reached_hookedStore, resolving_posts, askable, dated,
    kept _ (by decide) resolving_posts⟩

theorem mixed_issues_silence : ∃ s : Service, Reached s.store ∧ s.network.Quiet ∧
    ∃ c more : ChangeSet, c.Extends more ∧ ∃ row ∈ s.store.branches,
      resolving.Posts c (.user "user" noon) s row ∧
      ¬ resolving.Posts more (.user "user" noon) s row := by
  refine ⟨{ store := hookedStore }, reached_hookedStore, Network.quiet_default, issuesOf ["b"],
    issuesOf ["b", "o"], extends_issuesOf (by decide), ⟨"b", "p", "b", "SHORT"⟩, by decide,
    resolving_posts, fun posts => ?_⟩
  obtain ⟨askable, readable⟩ := posts.resolved Network.quiet_default
  exact not_readable_mixed askable readable

end AnalysisWebhooks
