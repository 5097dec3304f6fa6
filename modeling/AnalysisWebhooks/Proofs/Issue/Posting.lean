import AnalysisWebhooks.Proofs.Issue.Telling
import AnalysisWebhooks.Proofs.Service.Tasks

namespace AnalysisWebhooks

open AnalysisWebhooks.Action Calendar

def Posted (body : String) (s t : Service) : Prop :=
  ∃ call ∈ t.calls.drop s.calls.length, call.body = body

namespace Posted

variable {body : String} {s t u : Service} {sent told : String → Prop}

theorem not_of_calls_eq (h : t.calls = s.calls) : ¬ Posted body s t := by
  rintro ⟨call, hcall, -⟩
  rw [h, List.drop_length] at hcall
  cases hcall

theorem congr_calls {t' : Service} (h : t.calls = t'.calls) :
    Posted body s t ↔ Posted body s t' := by
  rw [Posted, Posted, h]

theorem trans_iff (hst : Sends sent s t) (htu : Sends told t u) :
    Posted body s u ↔ Posted body s t ∨ Posted body t u := by
  obtain ⟨first, hfirst, -⟩ := hst.calls
  obtain ⟨second, hsecond, -⟩ := htu.calls
  have one : t.calls.drop s.calls.length = first := by rw [hfirst, List.drop_left]
  have two : u.calls.drop t.calls.length = second := by rw [hsecond, List.drop_left]
  have both : u.calls.drop s.calls.length = first ++ second := by
    rw [hsecond, hfirst, List.append_assoc, List.drop_left]
  rw [Posted, Posted, Posted, one, two, both]
  simp only [List.mem_append, or_and_right, exists_or]

theorem iff_of_calls {told : String} (hst : Sends (· = told) s t) (h : Calls s t) :
    Posted body s t ↔ body = told := by
  obtain ⟨new, hnew, hsent⟩ := hst.calls
  rw [Calls, hnew, List.length_append] at h
  obtain ⟨call, rest, rfl⟩ := List.exists_cons_of_length_pos (l := new) (by omega)
  rw [Posted, hnew, List.drop_left]
  constructor
  · rintro ⟨other, hother, rfl⟩
    exact hsent other hother
  · rintro rfl
    exact ⟨call, List.mem_cons_self, hsent call List.mem_cons_self⟩

end Posted

namespace Notice

variable (n : Notice) {s : Service}

theorem sends_tell (s : Service) : Sends (· = s.bodyOf n.analysis) s (n.tell.after s) := by
  rw [after_tell]
  exact sends_dispatch _ _ _ s

theorem tell_eq_ok (quiet : s.network.Quiet) : n.tell s = .ok ⟨⟩ (n.tell.after s) := by
  have telling : Contained (·.network.Quiet) (do
      let _ ← dispatch n.configuration n.subject (makePayload n.analysis) : Action Unit) :=
    contained_sends (sends_dispatch_any _ _ _) (contained_dispatch _ _ _) fun _ => contained_pure _
  obtain ⟨_, t, h⟩ := ok_orElse telling (fun failure t => ⟨⟨⟩, t, rfl⟩) quiet
  have htell : n.tell s = .ok ⟨⟩ t := h
  rw [htell, after_ok htell]

variable {n} in
theorem posted_tell (linkable : n.analysis.IsLinkable) {body : String} (s : Service) :
    Posted body s (n.tell.after s) ↔ n.IsAddressed ∧ body = s.bodyOf n.analysis := by
  by_cases addressed : n.IsAddressed
  · rw [Posted.iff_of_calls (n.sends_tell s) (n.calls_tell addressed linkable s),
      and_iff_right addressed]
  · have same : n.tell.after s = s := by
      rw [after_tell, dispatch_of_webhooks_eq_nil _ _ _ (not_not.1 addressed)]
      rfl
    rw [same]
    exact iff_of_false (Posted.not_of_calls_eq rfl) fun h => addressed h.1

end Notice

section TellAll

variable {s : Service} {body : String}

theorem after_tellAll_cons {n : Notice} {rest : List Notice} (quiet : s.network.Quiet) :
    (tellAll (n :: rest)).after s = (tellAll rest).after (n.tell.after s) := by
  rw [tellAll_cons, after_bind_ok (n.tell_eq_ok quiet)]

theorem sends_tellAll (notices : List Notice) (quiet : s.network.Quiet) :
    Sends (fun _ => True) s ((tellAll notices).after s) := by
  induction notices generalizing s with
  | nil => exact .refl s
  | cons n rest ih =>
    have first := n.sends_tell s
    rw [after_tellAll_cons quiet]
    exact (first.mono fun _ _ => trivial).trans (ih (first.quiet quiet))

theorem posted_tellAll {notices : List Notice} (linkable : ∀ n ∈ notices, n.analysis.IsLinkable)
    (quiet : s.network.Quiet) :
    Posted body s ((tellAll notices).after s) ↔
      ∃ n ∈ notices, n.IsAddressed ∧ body = s.bodyOf n.analysis := by
  induction notices generalizing s with
  | nil => exact iff_of_false (Posted.not_of_calls_eq rfl) (by simp)
  | cons n rest ih =>
    have first := n.sends_tell s
    have quietThen := first.quiet quiet
    rw [List.forall_mem_cons] at linkable
    rw [after_tellAll_cons quiet, Posted.trans_iff first (sends_tellAll rest quietThen),
      Notice.posted_tell linkable.1, ih linkable.2 quietThen]
    simp only [first.bodyOf, List.exists_mem_cons_iff]

end TellAll

theorem ChangeSet.isLinkable_of_mem_notices (c : ChangeSet) {s : Store} :
    ∀ n ∈ c.notices s, n.analysis.IsLinkable := by
  intro n hn
  obtain ⟨row, -, hrow⟩ := List.mem_filterMap.1 hn
  obtain ⟨texts, htexts⟩ := Store.linkTexts_of_notice? hrow
  rw [ProjectAnalysis.IsLinkable, htexts]
  simp

namespace IssueAction

variable {action : IssueAction} {c : ChangeSet} {context : ChangeContext} {s : Service}
  {body : String}

theorem posted_react (quiet : s.network.Quiet) :
    Posted body s ((action.react c context).after s) ↔
      action.Counts c context s ∧ (c.Askable s.store ∧ s.store.Readable (c.roots s.store)) ∧
        ∃ n ∈ c.notices s.store, n.IsAddressed ∧ body = s.bodyOf n.analysis := by
  by_cases counts : action.Counts c context s
  · by_cases resolved : c.Askable s.store ∧ s.store.Readable (c.roots s.store)
    · rw [Posted.congr_calls (calls_of_bare (react_of_askable counts resolved.1 resolved.2)),
        posted_tellAll c.isLinkable_of_mem_notices quiet, and_iff_right counts,
        and_iff_right resolved]
    · have same : ((action.react c context).after s).calls = s.calls :=
        calls_of_bare (react_of_not_resolved resolved)
      exact iff_of_false (Posted.not_of_calls_eq same) fun h => resolved h.2.1
  · exact iff_of_false (Posted.not_of_calls_eq (calls_of_bare (react_of_not_counts counts)))
      fun h => counts h.1

end IssueAction

end AnalysisWebhooks
