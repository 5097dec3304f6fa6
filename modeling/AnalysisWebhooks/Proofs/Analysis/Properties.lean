import AnalysisWebhooks.Proofs.Check.Fields
import AnalysisWebhooks.Proofs.Json.Merging
import AnalysisWebhooks.Proofs.Text.Encoding
import AnalysisWebhooks.Request.Basic

namespace AnalysisWebhooks

open Check

namespace Key

def Spells (k : Key) (name : RawText) : Prop :=
  name = k.camel ∨ name = k.snake

instance (k : Key) (name : RawText) : Decidable (k.Spells name) :=
  inferInstanceAs (Decidable (_ ∨ _))

def Apart (k other : Key) : Prop :=
  ¬ other.Spells k.camel ∧ ¬ other.Spells k.snake

instance (k other : Key) : Decidable (k.Apart other) :=
  inferInstanceAs (Decidable (_ ∧ _))

def others (k : Key) (members : Json.Members) : Json.Members :=
  members.filter fun m => !decide (k.Spells m.1)

variable {k other : Key} {members : Json.Members} {name : String} {j : Json}

theorem spells_of_find? (h : k.find? members = some (name, j)) : k.Spells name := by
  unfold find? at h
  split at h
  · cases h
    exact .inl rfl
  · obtain ⟨value, -, h⟩ := Option.map_eq_some_iff.1 h
    cases h
    exact .inr rfl

theorem not_spells_of_find? (h : k.find? members = none) : ∀ m ∈ members, ¬ k.Spells m.1 := by
  have absent {key : String} (h : Json.get? members key = none) :
      ∀ m ∈ members, m.1 ≠ .plain key := by
    intro m hm same
    have := List.lookup_eq_none_iff.1 h m hm
    simp [same] at this
  unfold find? at h
  split at h
  · cases h
  · rename_i camel
    rw [Option.map_eq_none_iff] at h
    exact fun m hm spells => spells.elim (absent camel m hm) (absent h m hm)

theorem get?_others (k : Key) (members : Json.Members) (name : String) :
    Json.get? (k.others members) name =
      if k.Spells name then none else Json.get? members name := by
  unfold Json.get? others
  induction members with
  | nil => simp
  | cons m rest ih =>
    obtain ⟨first, j⟩ := m
    rw [List.filter_cons, List.lookup_cons]
    by_cases same : .plain name = first
    · subst same
      by_cases spells : k.Spells name <;> simp [spells, ih]
    · have differs : (RawText.plain name == first) = false := by simpa using same
      by_cases spells : k.Spells first <;> simp [spells, ih, List.lookup_cons, differs]

theorem find?_others (h : other.Apart k) :
    other.find? (k.others members) = other.find? members := by
  rw [find?, get?_others, get?_others, if_neg h.1, if_neg h.2, find?]

theorem all_isUnicode_others (k : Key) (members : Json.Members) :
    (k.others members).all (·.1.isUnicode) = members.all (·.1.isUnicode) := by
  rw [others, List.all_filter]
  congr 1
  funext m
  by_cases spells : k.Spells m.1
  · rcases spells with same | same <;> simp [same]
  · simp [spells]

theorem find?_others_self (k : Key) (members : Json.Members) :
    k.find? (k.others members) = none := by
  rw [find?, get?_others, get?_others, if_pos (.inl rfl), if_pos (.inr rfl)]
  rfl

end Key

namespace Check

variable {α : Type} {k other : Key} {members : Json.Members} {read : Json → Check α}

theorem required_others (h : other.Apart k) :
    required other read (k.others members) = required other read members := by
  rw [required, Key.find?_others h, required]

theorem optional_others (h : other.Apart k) (fallback : α) :
    optional other fallback read (k.others members) = optional other fallback read members := by
  rw [optional, Key.find?_others h, optional]

theorem unexpected_others {keys : List Key} (apart : ∀ other ∈ keys, other = k ∨ other.Apart k)
    (h : ∀ m ∈ members, k.Spells m.1 →
      ∃ name j, m.1 = .plain name ∧ k.find? members = some (name, j)) (hk : k ∈ keys) :
    unexpected keys (k.others members) = unexpected keys members := by
  have used {name : String} (hname : ¬ k.Spells name) :
      (keys.filterMap fun other => (other.find? (k.others members)).map (·.1)).contains name =
        (keys.filterMap fun other => (other.find? members).map (·.1)).contains name := by
    rw [Bool.eq_iff_iff, List.contains_iff_mem, List.contains_iff_mem, List.mem_filterMap,
      List.mem_filterMap]
    refine exists_congr fun other => and_congr_right fun hother => ?_
    rcases apart other hother with rfl | apart
    · rw [Key.find?_others_self]
      refine iff_of_false nofun fun found => ?_
      obtain ⟨⟨spelled, j⟩, hfind, rfl⟩ := Option.map_eq_some_iff.1 found
      exact hname (Key.spells_of_find? hfind)
    · rw [Key.find?_others apart]
  unfold unexpected
  dsimp only
  congr 1
  conv => lhs; arg 2; rw [Key.others]
  rw [List.filterMap_filter, List.filter_filterMap, List.filter_filterMap]
  refine List.filterMap_congr fun m hm => ?_
  by_cases spells : k.Spells m.1
  · obtain ⟨name, j, same, hfind⟩ := h m hm spells
    have taken : name ∈ keys.filterMap fun other => (other.find? members).map (·.1) :=
      List.mem_filterMap.2 ⟨k, hk, by rw [hfind]; rfl⟩
    rw [same] at spells ⊢
    simp [spells, Option.filter_some, taken]
  · cases hname : m.1 with
    | plain name =>
      rw [hname] at spells
      simp only [spells, RawText.plain?_plain, decide_false, Bool.not_false, ↓reduceIte,
        Option.filter_some, used spells]
    | broken units lone =>
      split <;> rfl

theorem find?_of_expected {keys : List Key} (apart : ∀ other ∈ keys, other = k ∨ other.Apart k)
    (expected : unexpected keys members = []) :
    ∀ m ∈ members, k.Spells m.1 →
      ∃ name j, m.1 = .plain name ∧ k.find? members = some (name, j) := by
  intro m hm spells
  obtain ⟨name, same⟩ : ∃ name, m.1 = .plain name := by
    rcases spells with h | h <;> exact ⟨_, h⟩
  rw [same] at spells
  have taken : name ∈ keys.filterMap fun other => (other.find? members).map (·.1) := by
    have := List.filter_eq_nil_iff.1 (List.map_eq_nil_iff.1 expected) name
      (List.mem_filterMap.2 ⟨m, hm, by rw [same]; rfl⟩)
    simpa only [Bool.not_eq_true, Bool.not_eq_false', List.contains_iff_mem] using this
  obtain ⟨other, hother, found⟩ := List.mem_filterMap.1 taken
  obtain ⟨⟨name, j⟩, hfind, rfl⟩ := Option.map_eq_some_iff.1 found
  rcases apart other hother with rfl | apart
  · exact ⟨name, j, same, hfind⟩
  · rcases Key.spells_of_find? hfind with same | same
    · exact absurd (same ▸ spells) apart.1
    · exact absurd (same ▸ spells) apart.2

end Check

inductive PropertiesIn (members : Json.Members) : List (RawText × RawText) → Prop
  | absent (h : propertiesKey.find? members = none) : PropertiesIn members []
  | told {name : String} {properties : List (RawText × RawText)}
      (h : propertiesKey.find? members =
        some (name, .object (properties.map fun p => (p.1, .text p.2))))
      (single : ∀ m ∈ members, propertiesKey.Spells m.1 → m.1 = .plain name) :
      PropertiesIn members properties

def FinishedAnalysis.withProperties (f : FinishedAnalysis) (properties : List (RawText × RawText)) :
    FinishedAnalysis :=
  { f with report := { f.report with properties } }

namespace PropertiesIn

variable {members : Json.Members} {properties : List (RawText × RawText)}

theorem find? (h : PropertiesIn members properties) :
    ∀ m ∈ members, propertiesKey.Spells m.1 →
      ∃ name j, m.1 = .plain name ∧ propertiesKey.find? members = some (name, j) := by
  cases h with
  | absent h => exact fun m hm spells => absurd spells (Key.not_spells_of_find? h m hm)
  | told h single => exact fun m hm spells => ⟨_, _, single m hm spells, h⟩

theorem values_text (properties : List (RawText × RawText)) :
    values text (properties.map fun p => (p.1, .text p.2)) = ok properties := by
  induction properties with
  | nil => rfl
  | cons p rest ih =>
    rw [List.map_cons, values, ih]
    rfl

theorem optional_eq_ok (h : PropertiesIn members properties) :
    Check.optional propertiesKey [] (mapping text) members = ok properties := by
  cases h with
  | absent h => rw [Check.optional, h]
  | told h single =>
    rw [Check.optional, h]
    dsimp only
    rw [mapping, values_text]
    rfl

theorem eq_of_values_text {entries : Json.Members} (h : values text entries = ok properties) :
    entries = properties.map fun p => (p.1, .text p.2) := by
  induction entries generalizing properties with
  | nil =>
    cases h
    rfl
  | cons m rest ih =>
    obtain ⟨key, j⟩ := m
    obtain ⟨put, more, hput, hmore, rfl⟩ := seq_eq_ok.1 h
    obtain ⟨value, hvalue, rfl⟩ := Check.map_eq_ok.1 hput
    cases j with
    | text s =>
      cases within_eq_ok.1 hvalue
      rw [List.map_cons, ← ih hmore]
    | _ => cases within_eq_ok.1 hvalue

theorem of_optional_eq_ok
    (h : Check.optional propertiesKey [] (mapping text) members = ok properties)
    (single : ∀ m ∈ members, propertiesKey.Spells m.1 →
      ∃ name j, m.1 = .plain name ∧ propertiesKey.find? members = some (name, j)) :
    PropertiesIn members properties := by
  unfold Check.optional at h
  cases hfind : propertiesKey.find? members with
  | none =>
    rw [hfind] at h
    cases h
    exact .absent hfind
  | some found =>
    obtain ⟨name, j⟩ := found
    rw [hfind] at h
    have hj := within_eq_ok.1 h
    cases j with
    | object entries =>
      rw [eq_of_values_text hj] at hfind
      refine .told hfind fun m hm spells => ?_
      obtain ⟨other, j, same, found⟩ := single m hm spells
      rw [hfind] at found
      cases found
      exact same
    | _ => cases hj

end PropertiesIn

theorem Check.seq_ok {α β : Type} (f : Check (α → β)) (a : α) : f <*> ok a = (· a) <$> f := by
  cases f <;> rfl

namespace FinishedAnalysis

theorem fields_apart : ∀ other ∈ keys, other = propertiesKey ∨ other.Apart propertiesKey := by
  decide

def readFields (members : Json.Members) : Check (List (RawText × RawText) → AnalysisReport) :=
  AnalysisReport.mk <$> required AnalysisReport.taskKey text members
    <*> required (.word "project") Project.read members
    <*> maybe (.word "branch") Branch.read members
    <*> maybe (.word "analysis") AnalysisInfo.read members
    <*> maybe gateKey QualityGate.read members

theorem readFields_others (members : Json.Members) :
    readFields (propertiesKey.others members) = readFields members := by
  unfold readFields maybe
  rw [required_others (by decide), required_others (by decide), optional_others (by decide),
    optional_others (by decide), optional_others (by decide)]

theorem properties_of_readFields {members : Json.Members}
    {report : List (RawText × RawText) → AnalysisReport} (h : readFields members = ok report)
    (first properties : List (RawText × RawText)) :
    { report first with properties } = report properties := by
  obtain ⟨upToAnalysis, gate, hanalysis, -, rfl⟩ := seq_eq_ok.1 h
  obtain ⟨upToBranch, analysis, hbranch, -, rfl⟩ := seq_eq_ok.1 hanalysis
  obtain ⟨upToProject, branch, hproject, -, rfl⟩ := seq_eq_ok.1 hbranch
  obtain ⟨upToTask, project, htask, -, rfl⟩ := seq_eq_ok.1 hproject
  obtain ⟨task, -, rfl⟩ := Check.map_eq_ok.1 htask
  rfl

theorem read_eq {members : Json.Members} {properties : List (RawText × RawText)}
    (h : PropertiesIn members properties) :
    read (.object members) =
      if members.all (·.1.isUnicode) then
        (FinishedAnalysis.mk <$> ((· properties) <$> readFields members)
          <*> Check.optional stepsKey true boolean members
          <*> maybe ComponentRef.mainProjectKey text members).withFaults (unexpected keys members)
      else fail .notUnicode := by
  rw [← Check.seq_ok, ← h.optional_eq_ok]
  rfl

theorem read_of_propertiesIn {members : Json.Members} {properties : List (RawText × RawText)}
    (h : PropertiesIn members properties) :
    read (.object members) =
      (·.withProperties properties) <$> read (.object (propertiesKey.others members)) := by
  have untold : PropertiesIn (propertiesKey.others members) [] :=
    .absent (Key.find?_others_self ..)
  rw [read_eq h, read_eq untold, Key.all_isUnicode_others, readFields_others,
    unexpected_others fields_apart h.find? (by decide), optional_others (by decide), maybe,
    optional_others (by decide)]
  split
  case isFalse => rfl
  generalize Check.optional stepsKey true boolean members = steps
  generalize Check.optional ComponentRef.mainProjectKey none _ members = mainProject
  generalize unexpected keys members = more
  cases hreport : readFields members with
  | bad faults => cases steps <;> cases mainProject <;> rfl
  | ok report =>
    have put := properties_of_readFields hreport [] properties
    cases steps with
    | bad faults => cases mainProject <;> rfl
    | ok steps =>
      cases mainProject with
      | bad faults => rfl
      | ok mainProject =>
        cases more with
        | cons fault rest => rfl
        | nil =>
          show ok (FinishedAnalysis.mk (report properties) steps mainProject) = _
          rw [← put]
          rfl

theorem propertiesIn_of_read {members : Json.Members} {f : FinishedAnalysis}
    (h : read (.object members) = ok f) : PropertiesIn members f.report.properties := by
  obtain ⟨_, same, h⟩ := record_eq_ok.1 h
  cases same
  obtain ⟨-, hfields, expected⟩ := closed_eq_ok.1 h
  obtain ⟨upToSteps, mainProject, hsteps, -, rfl⟩ := seq_eq_ok.1 hfields
  obtain ⟨upToReport, steps, hreport, -, rfl⟩ := seq_eq_ok.1 hsteps
  obtain ⟨report, hmembers, rfl⟩ := Check.map_eq_ok.1 hreport
  obtain ⟨upToGate, properties, hgate, told, rfl⟩ := seq_eq_ok.1 hmembers
  have put := properties_of_readFields hgate [] properties
  show PropertiesIn members (upToGate properties).properties
  rw [← put]
  exact .of_optional_eq_ok told (find?_of_expected fields_apart expected)

end FinishedAnalysis

end AnalysisWebhooks
