import Mathlib.Data.List.Basic
import AnalysisWebhooks.Command.Run

namespace AnalysisWebhooks

namespace Revision

def later (a b : Option Revision) : Option Revision :=
  if level a ≤ level b then b else a

def Names (text : String) (r : Revision) : Prop :=
  (4 ≤ text.length ∧ text.toList <+: r.id.toList) ∨ (text = "head" ∧ r = head)

theorem names_id (r : Revision) : Names r.id r :=
  .inl ⟨by cases r <;> decide, List.prefix_rfl⟩

theorem level_injective {a b : Option Revision} (h : level a = level b) : a = b := by
  have hb := atLevel?_level b
  rw [← h, atLevel?_level a] at hb
  exact Option.some.inj hb

theorem level_le_head (r : Option Revision) : level r ≤ level (some head) := by
  cases r with
  | none => decide
  | some r => cases r <;> decide

theorem level_later (a b : Option Revision) : level (later a b) = max (level a) (level b) := by
  unfold later
  split <;> omega

theorem later_of_le {a b : Option Revision} (h : level a ≤ level b) : later a b = b :=
  if_pos h

theorem later_head (r : Option Revision) : later r (some head) = some head :=
  later_of_le (level_le_head r)

theorem line_rising : line.Pairwise (·.number < ·.number) := by
  decide

theorem filter_between_append {revisions : List Revision}
    (rising : revisions.Pairwise (·.number < ·.number)) {a b c : Nat} (hab : a ≤ b)
    (hbc : b ≤ c) :
    (revisions.filter fun r => a < r.number ∧ r.number ≤ b) ++
        (revisions.filter fun r => b < r.number ∧ r.number ≤ c) =
      revisions.filter fun r => a < r.number ∧ r.number ≤ c := by
  induction revisions with
  | nil => rfl
  | cons x rest ih =>
    obtain ⟨above, rising⟩ := List.pairwise_cons.1 rising
    by_cases hx : x.number ≤ b
    · have second : ¬ (b < x.number ∧ x.number ≤ c) := by omega
      have both : (a < x.number ∧ x.number ≤ b) ↔ (a < x.number ∧ x.number ≤ c) := by omega
      simp only [List.filter_cons, second, both, decide_false, Bool.false_eq_true, if_false,
        ← ih rising]
      split <;> rfl
    · -- Everything behind `x` is above `b` too, so that the first part is empty.
      have first : (x :: rest).filter (fun r => a < r.number ∧ r.number ≤ b) = [] := by
        refine List.filter_eq_nil_iff.2 fun r hr => ?_
        rcases List.mem_cons.1 hr with rfl | hr
        · simp [hx]
        · have := above r hr
          simp only [decide_eq_true_eq]
          omega
      rw [first, List.nil_append]
      refine List.filter_congr fun r hr => ?_
      have : b < r.number := by
        rcases List.mem_cons.1 hr with rfl | hr
        · omega
        · have := above r hr
          omega
      have : (b < r.number ∧ r.number ≤ c) ↔ (a < r.number ∧ r.number ≤ c) := by omega
      simp only [this]

theorem between_append {a b c : Option Revision} (hab : level a ≤ level b)
    (hbc : level b ≤ level c) : between a b ++ between b c = between a c :=
  filter_between_append line_rising hab hbc

theorem between_of_le {a b : Option Revision} (h : level b ≤ level a) : between a b = [] := by
  refine List.filter_eq_nil_iff.2 fun r _ => ?_
  simp only [decide_eq_true_eq]
  omega

theorem initial_not_mem_between (r : Revision) (target : Option Revision) :
    initial ∉ between (some r) target := by
  intro h
  have := (List.mem_filter.1 h).2
  cases r <;> simp [level, number] at this

theorem getLast?_between (a b : Option Revision) : (between a b).getLast?.or a = later a b := by
  rcases a with _ | _ | _ | _ <;> rcases b with _ | _ | _ | _ <;> rfl

theorem later_later {r a b : Option Revision} (h : level a ≤ level b) :
    later (later r a) b = later r b := by
  apply level_injective
  simp only [level_later]
  omega

theorem eq_of_common_start {text : String} {r r' : Revision} (hlong : 4 ≤ text.length)
    (h : text.toList <+: r.id.toList) (h' : text.toList <+: r'.id.toList) : r = r' := by
  have start {r : Revision} (h : text.toList <+: r.id.toList) :
      text.toList.take 4 = r.id.toList.take 4 := by
    obtain ⟨rest, hrest⟩ := h
    rw [← hrest, List.take_append_of_le_length (by rwa [String.length_toList])]
  have same := (start h).symm.trans (start h')
  revert same
  cases r <;> cases r' <;> decide

theorem head?_of_start {text : String} {r : Revision} (hlong : 4 ≤ text.length)
    (h : text.toList <+: r.id.toList) : text.toList.head? = some '0' := by
  have hid : r.id.toList.head? = some '0' := by cases r <;> decide
  obtain ⟨rest, hrest⟩ := h
  rw [← hrest] at hid
  cases htext : text.toList with
  | nil =>
    have : text.toList.length = 0 := by rw [htext]; rfl
    rw [String.length_toList] at this
    omega
  | cons c cs => simpa [htext] using hid

theorem steps_of_start {text : String} (h : text.toList.head? = some '0') :
    Steps.ofText? text = none := by
  unfold Steps.ofText?
  cases htext : text.toList with
  | nil => rfl
  | cons c cs =>
    obtain rfl : c = '0' := by simpa [htext] using h
    rfl

theorem locate_of_start {text : String} {r : Revision} (hlong : 4 ≤ text.length)
    (h : text.toList <+: r.id.toList) : locate text = .ok (some r) := by
  have hzero := head?_of_start hlong h
  have other {word : String} (hword : word.toList.head? ≠ some '0') : text ≠ word := by
    rintro rfl
    exact hword hzero
  have found : (line.filter fun r => startsWith text r.id) = [r] := by
    have same (r' : Revision) : startsWith text r'.id = decide (r' = r) := by
      rw [startsWith, Bool.eq_iff_iff, List.isPrefixOf_iff_prefix, decide_eq_true_eq]
      exact ⟨fun h' => eq_of_common_start hlong h' h, fun heq => heq ▸ h⟩
    rw [List.filter_congr fun r' _ => same r']
    cases r <;> rfl
  have head : ¬ (text = "head" ∨ text = "heads") := not_or.2 ⟨other (by decide), other (by decide)⟩
  have base : text ≠ "base" := other (by decide)
  rw [locate, if_neg head, if_neg base, found]

theorem Names.upgradeTarget {text : String} {r : Revision} (h : Names text r)
    (current : Option Revision) : upgradeTarget current text = .ok (some r) := by
  rcases h with ⟨hlong, hstart⟩ | ⟨rfl, rfl⟩
  · rw [Revision.upgradeTarget, steps_of_start (head?_of_start hlong hstart)]
    exact locate_of_start hlong hstart
  · rfl

end Revision

namespace Database

open Revision

def upgrades (texts : List String) (db : Database) : Database :=
  texts.foldl (fun db text => (db.upgrade text).2) db

def Founded (db : Database) : Prop :=
  db.revision = none → db.store = {}

variable {db : Database}

theorem upgradedTo_store (target : Option Revision) (db : Database) :
    (db.upgradedTo target).store =
      (between db.revision target).foldl (fun store step => stepUp step store) db.store := rfl

theorem upgradedTo_revision (target : Option Revision) (db : Database) :
    (db.upgradedTo target).revision = later db.revision target :=
  getLast?_between db.revision target

theorem upgradedTo_of_le {target : Option Revision} (h : level target ≤ level db.revision) :
    db.upgradedTo target = { db with marked := true } := by
  simp [upgradedTo, between_of_le h]

theorem upgradedTo_upgradedTo {a b : Option Revision} (h : level a ≤ level b) :
    (db.upgradedTo a).upgradedTo b = db.upgradedTo b := by
  by_cases hstart : level a ≤ level db.revision
  · rw [upgradedTo_of_le hstart]
    rfl
  · have hrevision : (db.upgradedTo a).revision = a := by
      rw [upgradedTo_revision, later_of_le (Nat.le_of_not_le hstart)]
    have hstore : ((db.upgradedTo a).upgradedTo b).store = (db.upgradedTo b).store := by
      rw [upgradedTo_store, hrevision, upgradedTo_store, upgradedTo_store, ← List.foldl_append,
        between_append (Nat.le_of_not_le hstart) h]
    have hend : ((db.upgradedTo a).upgradedTo b).revision = (db.upgradedTo b).revision := by
      simp only [upgradedTo_revision, later_later h]
    exact Database.mk.injEq .. ▸ ⟨hend, rfl, hstore⟩

theorem upgrade_eq_upgradedTo (db : Database) (text : String) :
    ∃ target, (db.upgrade text).2 = db.upgradedTo target := by
  unfold upgrade
  cases upgradeTarget db.revision text with
  | ok target => exact ⟨target, rfl⟩
  | error fault => exact ⟨none, (upgradedTo_of_le (Nat.zero_le _)).symm⟩

theorem upgrade_of_names {text : String} {r : Revision} (h : Names text r) (db : Database) :
    db.upgrade text = (.ok (), db.upgradedTo (some r)) := by
  rw [upgrade, h.upgradeTarget]

theorem upgrade_head (db : Database) : db.upgrade "head" = (.ok (), db.upgradedTo (some head)) :=
  upgrade_of_names (.inr ⟨rfl, rfl⟩) db

theorem upgradedTo_head_upgrades (texts : List String) (db : Database) :
    (db.upgrades texts).upgradedTo (some head) = db.upgradedTo (some head) := by
  induction texts generalizing db with
  | nil => rfl
  | cons text rest ih =>
    obtain ⟨target, htarget⟩ := upgrade_eq_upgradedTo db text
    have := ih (db.upgrade text).2
    rwa [htarget, upgradedTo_upgradedTo (level_le_head target), ← htarget] at this

theorem stepUp_empty (step : Revision) : stepUp step {} = {} := by
  cases step <;> rfl

theorem stepUp_frame {step : Revision} (h : step ≠ .initial) (s : Store) :
    stepUp step s = { s with deliveries := (stepUp step s).deliveries } := by
  cases step with
  | initial => exact absurd rfl h
  | analysisColumn => rfl
  | analysisFilled => rfl

theorem stepsUp_frame {steps : List Revision} (h : .initial ∉ steps) (s : Store) :
    steps.foldl (fun store step => stepUp step store) s = { s with
      deliveries := (steps.foldl (fun store step => stepUp step store) s).deliveries } := by
  induction steps generalizing s with
  | nil => rfl
  | cons step rest ih =>
    rw [List.mem_cons, not_or] at h
    have hrest := ih h.2 (stepUp step s)
    rw [stepUp_frame (Ne.symm h.1) s] at hrest
    simpa [← stepUp_frame (Ne.symm h.1) s] using hrest

theorem stepsUp_empty (steps : List Revision) :
    steps.foldl (fun store step => stepUp step store) {} = {} := by
  induction steps with
  | nil => rfl
  | cons step rest ih => rw [List.foldl_cons, stepUp_empty, ih]

theorem Founded.upgradedTo_frame (h : db.Founded) (target : Option Revision) :
    (db.upgradedTo target).store =
      { db.store with deliveries := (db.upgradedTo target).store.deliveries } := by
  rw [upgradedTo_store]
  cases hrevision : db.revision with
  | none => rw [h hrevision, stepsUp_empty]
  | some r => exact stepsUp_frame (initial_not_mem_between r target) db.store

theorem Founded.upgradedTo (h : db.Founded) (target : Option Revision) :
    (db.upgradedTo target).Founded := by
  intro hnone
  have hnever : db.revision = none := by
    rw [upgradedTo_revision] at hnone
    have := level_later db.revision target
    rw [hnone] at this
    exact level_injective (by simp only [level] at this ⊢; omega)
  rw [upgradedTo_store, h hnever, stepsUp_empty]

theorem Founded.upgrades_frame (h : db.Founded) (texts : List String) :
    (db.upgrades texts).store =
      { db.store with deliveries := (db.upgrades texts).store.deliveries } := by
  induction texts generalizing db with
  | nil => rfl
  | cons text rest ih =>
    obtain ⟨target, htarget⟩ := upgrade_eq_upgradedTo db text
    have hrest := ih (h.upgradedTo target)
    rw [h.upgradedTo_frame target, ← htarget] at hrest
    exact hrest

end Database

def Command.left (settings : Settings) (s : Store) : Command → Store
  | .purge project =>
    match s.trimmed project settings.retentionCount with
    | .ok (_, t) => t
    | .error _ => s
  | _ => s

inductive HeadStep where
  | upgrade (text : String)
  | command (settings : Settings) (given : Command)
  | write (change : Store → Store)

namespace HeadStep

def apply (db : Database) : HeadStep → Database
  | .upgrade text => (db.upgrade text).2
  | .command settings given => (given.run settings db).2
  | .write change => { db with store := change db.store }

def left (s : Store) : HeadStep → Store
  | .upgrade _ => s
  | .command settings given => given.left settings s
  | .write change => change s

end HeadStep

namespace Database

open Revision

variable {db : Database}

theorem upgradedTo_of_head (h : db.revision = some head) (target : Option Revision) :
    db.upgradedTo target = { db with marked := true } :=
  upgradedTo_of_le (h ▸ level_le_head target)

theorem upgrade_of_head (h : db.revision = some head) (text : String) :
    (db.upgrade text).2 = { db with marked := true } := by
  obtain ⟨target, htarget⟩ := upgrade_eq_upgradedTo db text
  rw [htarget, upgradedTo_of_head h]

theorem run_of_head (h : db.revision = some head) (settings : Settings) (command : Command) :
    (command.run settings db).2.revision = some head ∧
      (command.run settings db).2.store = command.left settings db.store := by
  have hcurrent : Command.current db = { db with marked := true } := upgradedTo_of_head h _
  cases command with
  | migrate text =>
    have hrun : ((Command.migrate text).run settings db).2 = (db.upgrade text).2 := by
      simp only [Command.run]
      split <;> simp [*]
    rw [hrun, upgrade_of_head h]
    exact ⟨h, rfl⟩
  | deliveries project task limit =>
    rcases project with _ | project <;> rcases task with _ | task <;>
      simp only [Command.run, hcurrent]
    case none.none => exact ⟨h, rfl⟩
    all_goals split <;> exact ⟨h, rfl⟩
  | purge project =>
    simp only [Command.run, Command.left, hcurrent]
    cases db.store.trimmed project settings.retentionCount with
    | ok kept => exact ⟨h, rfl⟩
    | error failure => exact ⟨h, rfl⟩

theorem apply_of_head (h : db.revision = some head) (step : HeadStep) :
    (step.apply db).revision = some head ∧ (step.apply db).store = step.left db.store := by
  cases step with
  | upgrade text =>
    rw [HeadStep.apply, upgrade_of_head h]
    exact ⟨h, rfl⟩
  | command settings given => exact run_of_head h settings given
  | write change => exact ⟨h, rfl⟩

theorem foldl_apply_of_head (h : db.revision = some head) (steps : List HeadStep) :
    (steps.foldl HeadStep.apply db).revision = some head ∧
      (steps.foldl HeadStep.apply db).store = steps.foldl HeadStep.left db.store := by
  induction steps generalizing db with
  | nil => exact ⟨h, rfl⟩
  | cons step rest ih =>
    obtain ⟨hrevision, hstore⟩ := apply_of_head h step
    rw [List.foldl_cons, List.foldl_cons, ← hstore]
    exact ih hrevision

theorem upgrades_path_independent (db : Database) (founded : db.Founded) (texts : List String) :
    db.upgrades (texts ++ ["head"]) = (db.upgrade "head").2 ∧
      (db.upgrades texts).store =
        { db.store with deliveries := (db.upgrades texts).store.deliveries } ∧
      (∀ text r, Names text r → ((db.upgrades texts).upgrade text).1 = .ok () ∧
        ((db.upgrades texts).upgrade text).2.revision =
          later (db.upgrades texts).revision (some r)) ∧
      (db.upgrade "head").2.revision = some head ∧
      ∀ steps : List HeadStep,
        (steps.foldl HeadStep.apply (db.upgrade "head").2).revision = some head ∧
        (steps.foldl HeadStep.apply (db.upgrade "head").2).store =
          steps.foldl HeadStep.left (db.upgrade "head").2.store := by
  have hhead : (db.upgrade "head").2.revision = some head := by
    rw [upgrade_head, upgradedTo_revision, later_head]
  refine ⟨?_, founded.upgrades_frame texts, fun text r hnames => ?_, hhead,
    foldl_apply_of_head hhead⟩
  · rw [upgrades, List.foldl_append, List.foldl_cons, List.foldl_nil, upgrade_head, upgrade_head]
    exact upgradedTo_head_upgrades texts db
  · rw [upgrade_of_names hnames]
    exact ⟨rfl, upgradedTo_revision ..⟩

def deliveryOf (uuid : String) (task : Option String) : DeliveryRow String String :=
  ⟨uuid, "P", task, none, "CI", "http://a", true, some 200, some 5, "", none, "2024-05-01"⟩

def atFirstRevision : Database where
  revision := some .initial
  marked := true
  store :=
    { activities := [⟨"T1", "REPORT", some "P", some "A1", "SUCCESS", true, "2024-05-01", none⟩]
      deliveries := [deliveryOf "D1" (some "T1"), deliveryOf "D2" (some "T2")] }

def withNamelessDelivery (s : Store) : Store :=
  { s with deliveries := s.deliveries ++ [deliveryOf "D3" none] }

theorem upgrades_path_independent_atFirstRevision :
    atFirstRevision.Founded ∧
      (atFirstRevision.upgrades (["0002", "0001_initial", "0003"] ++ ["head"])).store.deliveries.map
          (fun row => (row.uuid, row.analysis)) = [("D1", some "A1")] ∧
      (atFirstRevision.upgrades ["0002"]).store.activities = atFirstRevision.store.activities ∧
      ((atFirstRevision.upgrades ["0002"]).upgrade Revision.initial.id).2.revision =
        some .analysisColumn ∧
      ([.write withNamelessDelivery, .upgrade "0001", .command {} (.migrate "head")].foldl
          HeadStep.apply (atFirstRevision.upgrade "head").2).store.deliveries.map
          (fun row => (row.uuid, row.analysis)) = [("D1", some "A1"), ("D3", none)] := by
  have founded : atFirstRevision.Founded := fun h => by cases h
  obtain ⟨single, -, -, -, left⟩ :=
    upgrades_path_independent atFirstRevision founded ["0002", "0001_initial", "0003"]
  obtain ⟨-, kept, named, -⟩ := upgrades_path_independent atFirstRevision founded ["0002"]
  refine ⟨founded, ?_, ?_, ?_, ?_⟩
  · rw [single]
    decide
  · rw [kept]
  · rw [(named _ .initial (names_id .initial)).2]
    decide
  · rw [(left _).2]
    decide

end Database

end AnalysisWebhooks
