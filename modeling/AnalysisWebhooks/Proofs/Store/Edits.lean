import Mathlib.Logic.Relation
import AnalysisWebhooks.Proofs.Outcome
import AnalysisWebhooks.Store.Analyses

namespace AnalysisWebhooks

open Calendar

namespace Store

variable {s t : Store} {now : Moment}

inductive Edit (now : Moment) (s : Store) : Store → Prop
  | component (uuid key name : String) (root mainProject : Option String) :
      Edit now s (s.withComponent uuid key name root mainProject)
  | branch {t : Store} {uuid project key : String} {kind : BranchKind}
      (h : s.withBranch uuid project key kind = .ok t) : Edit now s t
  | snapshot {t : Store} {uuid component status : String} {date : Moment}
      (h : s.withSnapshot uuid component date status = .ok t) : Edit now s t
  | activity {t : Store} {uuid taskType : String} {component analysis : Option String}
      {status : TaskStatus}
      (h : s.withActivity now uuid component status analysis taskType none = .ok t) : Edit now s t
  | others {t : Store}
      (h : t = { s with properties := t.properties, deliveries := t.deliveries }) : Edit now s t

def Edits (now : Moment) : Store → Store → Prop :=
  Relation.ReflTransGen (Edit now)

theorem withBranch_eq_ok {uuid project key : String} {kind : BranchKind}
    (h : s.withBranch uuid project key kind = .ok t) :
    t = { s with
      branches := upserted (fun b => b.uuid = uuid) (fun _ => ⟨uuid, project, key, kind.name⟩)
        ⟨uuid, project, key, kind.name⟩ s.branches } := by
  unfold withBranch at h
  split at h
  · cases h
  · cases h
    rfl

theorem withSnapshot_eq_ok {uuid component status : String} {date : Moment}
    (h : s.withSnapshot uuid component date status = .ok t) :
    ∃ createdAt, storedDate date = .ok createdAt ∧
      t = { s with
        snapshots := (if status = processed then
          s.snapshots.map fun row =>
            if row.component = component then { row with isLast := false } else row
          else s.snapshots) ++ [⟨uuid, component, status, status = processed, createdAt⟩] } := by
  obtain ⟨createdAt, hdate, h⟩ := bind_eq_ok.1 h
  refine ⟨createdAt, hdate, ?_⟩
  dsimp only at h
  split at h
  · cases h
  · cases h
    simp

end Store

end AnalysisWebhooks
