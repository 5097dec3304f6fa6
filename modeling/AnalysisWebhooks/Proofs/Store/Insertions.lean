import Mathlib.Data.List.Nodup
import AnalysisWebhooks.Proofs.Store.Edits

namespace AnalysisWebhooks

open Calendar

structure Insertion where
  uuid : String
  component : String
  status : String
deriving DecidableEq, Repr

namespace Insertion

def marks (i : Insertion) (component : String) : Bool :=
  i.component = component && i.status = Store.processed

theorem marks_iff {i : Insertion} {component : String} :
    i.marks component = true ↔ i.component = component ∧ i.status = Store.processed := by
  rw [marks, Bool.and_eq_true, decide_eq_true_eq, decide_eq_true_eq]

end Insertion

namespace SnapshotRow

variable (row : SnapshotRow String) (component : String)

def insertion : Insertion :=
  ⟨row.uuid, row.component, row.status⟩

def unmarked : SnapshotRow String :=
  if row.component = component then { row with isLast := false } else row

theorem insertion_unmarked : (row.unmarked component).insertion = row.insertion := by
  unfold unmarked
  split <;> rfl

def isLastOf : Bool :=
  row.component = component && row.isLast

theorem isLastOf_unmarked_self : (row.unmarked component).isLastOf component = false := by
  unfold unmarked isLastOf
  by_cases h : row.component = component
  · rw [if_pos h, Bool.and_false]
  · rw [if_neg h, decide_eq_false h, Bool.false_and]

variable {component}

theorem isLastOf_unmarked_other {other : String} (h : component ≠ other) :
    (row.unmarked other).isLastOf component = row.isLastOf component := by
  unfold unmarked
  split
  · rename_i hother
    have away : row.component ≠ component := fun hrow => h (hrow.symm.trans hother)
    simp only [isLastOf, decide_eq_false away, Bool.false_and]
  · rfl

end SnapshotRow

def insertedInto (row : SnapshotRow String) (rows : List (SnapshotRow String)) :
    List (SnapshotRow String) :=
  (if row.status = Store.processed then rows.map (·.unmarked row.component) else rows) ++ [row]

def lastRows (component : String) (rows : List (SnapshotRow String)) : List (SnapshotRow String) :=
  rows.filter (·.isLastOf component)

namespace Store

variable {s t : Store} {uuid component status : String} {date : Moment}

theorem withSnapshot_fresh (h : s.withSnapshot uuid component date status = .ok t) :
    ∀ row ∈ s.snapshots, row.uuid ≠ uuid := by
  obtain ⟨createdAt, -, h⟩ := bind_eq_ok.1 h
  dsimp only at h
  split at h
  · cases h
  · rename_i fresh
    simpa using fresh

theorem withSnapshot_inserts (h : s.withSnapshot uuid component date status = .ok t) :
    ∃ createdAt, storedDate date = .ok createdAt ∧ t = { s with
      snapshots := insertedInto ⟨uuid, component, status, status = processed, createdAt⟩
        s.snapshots } :=
  withSnapshot_eq_ok h

end Store

section Rows

variable {row : SnapshotRow String} {rows : List (SnapshotRow String)} {component : String}

theorem map_insertion_insertedInto :
    (insertedInto row rows).map (·.insertion) = rows.map (·.insertion) ++ [row.insertion] := by
  rw [insertedInto, List.map_append, List.map_singleton]
  split
  · rw [List.map_map]
    have same : (SnapshotRow.insertion ∘ fun old => old.unmarked row.component) =
        SnapshotRow.insertion := by
      funext old
      exact old.insertion_unmarked row.component
    rw [same]
  · rfl

theorem map_uuid_insertedInto :
    (insertedInto row rows).map (·.uuid) = rows.map (·.uuid) ++ [row.uuid] := by
  have insertions : (insertedInto row rows).map (·.insertion) = _ := map_insertion_insertedInto
  have same := congrArg (List.map Insertion.uuid) insertions
  rw [List.map_append, List.map_map, List.map_map] at same
  exact same

theorem lastRows_append (more : List (SnapshotRow String)) :
    lastRows component (rows ++ more) = lastRows component rows ++ lastRows component more :=
  List.filter_append rows more

theorem lastRows_unmarked_self : lastRows component (rows.map (·.unmarked component)) = [] := by
  rw [lastRows, List.filter_eq_nil_iff]
  intro row hrow
  obtain ⟨old, -, rfl⟩ := List.mem_map.1 hrow
  rw [old.isLastOf_unmarked_self component]
  exact Bool.false_ne_true

theorem lastRows_unmarked_other {other : String} (h : component ≠ other) :
    (lastRows component (rows.map (·.unmarked other))).map (·.insertion) =
      (lastRows component rows).map (·.insertion) := by
  induction rows with
  | nil => rfl
  | cons row rest ih =>
    rw [lastRows] at ih ⊢
    rw [List.map_cons, List.filter_cons, row.isLastOf_unmarked_other h, lastRows, List.filter_cons]
    split
    · rw [List.map_cons, List.map_cons, row.insertion_unmarked, ih, lastRows]
    · rw [ih, lastRows]

theorem lastRows_singleton (h : row.isLast = decide (row.status = Store.processed)) :
    lastRows component [row] = if row.insertion.marks component then [row] else [] := by
  rw [lastRows, List.filter_singleton, SnapshotRow.isLastOf, h, Bool.cond_eq_ite]
  rfl

theorem lastRows_insertedInto_self (processed : row.status = Store.processed)
    (marked : row.isLast = true) : lastRows row.component (insertedInto row rows) = [row] := by
  have marks : row.insertion.marks row.component = true := Insertion.marks_iff.2 ⟨rfl, processed⟩
  have own : lastRows row.component [row] = [row] := by
    rw [lastRows_singleton (by rw [marked, decide_eq_true processed]), if_pos marks]
  rw [insertedInto, if_pos processed, lastRows_append, lastRows_unmarked_self, own, List.nil_append]

theorem lastRows_insertedInto (h : row.isLast = decide (row.status = Store.processed)) :
    (lastRows component (insertedInto row rows)).map (·.insertion) =
      if row.insertion.marks component then [row.insertion]
      else (lastRows component rows).map (·.insertion) := by
  by_cases marked : row.insertion.marks component = true
  · obtain ⟨rfl, processed⟩ := Insertion.marks_iff.1 marked
    have self : lastRows row.insertion.component (insertedInto row rows) = [row] :=
      lastRows_insertedInto_self processed (h.trans (decide_eq_true processed))
    rw [if_pos marked, self]
    rfl
  · rw [insertedInto, lastRows_append, List.map_append, lastRows_singleton h, if_neg marked,
      if_neg marked, List.map_nil, List.append_nil]
    split
    · rename_i processed
      have other : component ≠ row.component := fun h =>
        marked (Insertion.marks_iff.2 ⟨h.symm, processed⟩)
      exact lastRows_unmarked_other other
    · rfl

end Rows

structure Inserted (insertions : List Insertion) (rows : List (SnapshotRow String)) : Prop where
  all : rows.map (·.insertion) = insertions.reverse
  distinct : (rows.map (·.uuid)).Nodup
  last : ∀ component, (lastRows component rows).map (·.insertion) =
    (insertions.find? (·.marks component)).toList

namespace Inserted

variable {insertions : List Insertion}

theorem nil : Inserted [] [] :=
  ⟨rfl, List.nodup_nil, fun _ => rfl⟩

theorem insert {rows : List (SnapshotRow String)} (h : Inserted insertions rows)
    {row : SnapshotRow String} (fresh : ∀ old ∈ rows, old.uuid ≠ row.uuid)
    (marked : row.isLast = decide (row.status = Store.processed)) :
    Inserted (row.insertion :: insertions) (insertedInto row rows) where
  all := by rw [map_insertion_insertedInto, h.all, List.reverse_cons]
  distinct := by
    have absent : row.uuid ∉ rows.map (·.uuid) := fun hmem => by
      obtain ⟨old, hold, same⟩ := List.mem_map.1 hmem
      exact fresh old hold same
    rw [map_uuid_insertedInto, ← List.concat_eq_append]
    exact h.distinct.concat absent
  last := by
    intro component
    rw [lastRows_insertedInto marked, List.find?_cons, h.last component]
    cases row.insertion.marks component <;> rfl

theorem withSnapshot {s t : Store} {uuid component status : String} {date : Moment}
    (h : Inserted insertions s.snapshots)
    (ht : s.withSnapshot uuid component date status = .ok t) :
    Inserted (⟨uuid, component, status⟩ :: insertions) t.snapshots := by
  have fresh := Store.withSnapshot_fresh ht
  obtain ⟨createdAt, -, rfl⟩ := Store.withSnapshot_inserts ht
  let row : SnapshotRow String := ⟨uuid, component, status, status = Store.processed, createdAt⟩
  have marked : row.isLast = decide (row.status = Store.processed) := rfl
  have inserted : Inserted (row.insertion :: insertions) (insertedInto row s.snapshots) :=
    h.insert fresh marked
  exact inserted

end Inserted

end AnalysisWebhooks
