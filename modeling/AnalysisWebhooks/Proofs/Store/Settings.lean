import AnalysisWebhooks.Proofs.Json.Merging
import AnalysisWebhooks.Proofs.Outcome
import AnalysisWebhooks.Store.Properties

namespace AnalysisWebhooks

open Calendar

inductive SettingStep where
  | put (component : Option String) (key : String) (value : Option String)
  | remove (component : Option String) (key : String)
deriving DecidableEq, Repr

namespace SettingStep

def component : SettingStep → Option String
  | put component .. => component
  | remove component _ => component

def key : SettingStep → String
  | put _ key _ => key
  | remove _ key => key

def value? : SettingStep → Option (Option String)
  | put _ _ value => some value
  | remove .. => none

def names (component : Option String) (key : String) (step : SettingStep) : Bool :=
  decide (step.component = component ∧ step.key = key)

def apply (now : Moment) (s : Store) : SettingStep → Except Failure Store
  | put component key value => s.withProperty now key component value
  | remove component key => .ok (s.withoutProperty key component)

def last (steps : List SettingStep) (component : Option String) (key : String) :
    Option (Option String) :=
  (steps.find? (names component key)).bind value?

theorem last_cons (step : SettingStep) (steps : List SettingStep) (component : Option String)
    (key : String) : last (step :: steps) component key =
      if step.names component key then step.value? else last steps component key := by
  rw [last, List.find?_cons]
  cases h : step.names component key <;> simp [last]

end SettingStep

namespace Store

open SettingStep

variable {s t : Store} {now : Moment} {step : SettingStep} {steps : List SettingStep}
  {component : Option String} {key : String}

def settingRows (s : Store) (component : Option String) (key : String) : List PropertyRow :=
  s.properties.filter fun row => row.key = key && row.component = component

theorem filter_propertyRows (s : Store) (component : Option String) (key : String) :
    (s.propertyRows component).filter (·.key = key) = s.settingRows component key :=
  List.filter_filter

theorem countProperty_eq_length (s : Store) (component : Option String) (key : String) :
    s.countProperty key component = (s.settingRows component key).length :=
  List.countP_eq_length_filter

theorem withProperty_eq_ok {value : Option String}
    (h : s.withProperty now key component value = .ok t) :
    ∃ createdAt, t = { s with
      properties := (s.withoutProperty key component).properties ++
        [⟨key, component, value, createdAt⟩] } := by
  obtain ⟨createdAt, -, h⟩ := bind_eq_ok.1 h
  cases h
  exact ⟨createdAt, rfl⟩

theorem properties_withoutProperty (s : Store) (key : String) (component : Option String) :
    (s.withoutProperty key component).properties =
      s.properties.filter fun row => row.key ≠ key || row.component ≠ component := rfl

theorem settingRows_withoutProperty (s : Store) (component other : Option String)
    (key name : String) : (s.withoutProperty key component).settingRows other name =
      if component = other ∧ key = name then [] else s.settingRows other name := by
  rw [settingRows, properties_withoutProperty, List.filter_filter]
  split
  · rename_i same
    obtain ⟨rfl, rfl⟩ := same
    refine List.filter_eq_nil_iff.2 fun row _ => ?_
    by_cases hkey : row.key = key <;> simp [hkey]
  · rename_i different
    refine List.filter_congr fun row _ => ?_
    by_cases hkey : row.key = name
    · by_cases hcomponent : row.component = other
      · have : ¬ (name = key ∧ other = component) := fun h => different ⟨h.2.symm, h.1.symm⟩
        simpa [hkey, hcomponent, ← not_and_or] using this
      · simp [hcomponent]
    · simp [hkey]

theorem settingRows_apply (h : step.apply now s = .ok t) (component : Option String)
    (key : String) : (t.settingRows component key).map (·.value) =
      if step.names component key then step.value?.toList
      else (s.settingRows component key).map (·.value) := by
  cases step with
  | remove owner name =>
    cases h
    rw [settingRows_withoutProperty]
    by_cases same : owner = component ∧ name = key <;>
      simp [names, SettingStep.component, SettingStep.key, value?, same]
  | put owner name value =>
    obtain ⟨createdAt, rfl⟩ := withProperty_eq_ok h
    have cleared := settingRows_withoutProperty s owner component name key
    rw [settingRows] at cleared ⊢
    rw [List.filter_append, cleared]
    by_cases same : owner = component ∧ name = key
    · obtain ⟨rfl, rfl⟩ := same
      simp [names, SettingStep.component, SettingStep.key, value?]
    · have apart : ¬ (name = key ∧ owner = component) := fun h => same h.symm
      simp [names, SettingStep.component, SettingStep.key, same, apart]

theorem propertyRows_apply (h : step.apply now s = .ok t) {other : Option String}
    (apart : step.component ≠ other) : t.propertyRows other = s.propertyRows other := by
  have cleared (owner : Option String) (name : String) (differs : owner ≠ other) :
      (s.withoutProperty name owner).propertyRows other = s.propertyRows other := by
    rw [propertyRows, properties_withoutProperty, List.filter_filter]
    refine List.filter_congr fun row _ => ?_
    by_cases hrow : row.component = other
    · simp [hrow, Ne.symm differs]
    · simp [hrow]
  cases step with
  | remove owner name =>
    cases h
    exact cleared owner name apart
  | put owner name value =>
    obtain ⟨createdAt, rfl⟩ := withProperty_eq_ok h
    have others := cleared owner name apart
    rw [propertyRows] at others ⊢
    have : ¬ owner = other := apart
    rw [List.filter_append, others]
    simp [this]

def Holds (s : Store) (steps : List SettingStep) : Prop :=
  ∀ component key, (s.settingRows component key).map (·.value) = (last steps component key).toList

namespace Holds

theorem empty (h : s.properties = []) : s.Holds [] := by
  intro component key
  rw [settingRows, h]
  rfl

theorem apply (holds : s.Holds steps) (h : step.apply now s = .ok t) : t.Holds (step :: steps) := by
  intro component key
  rw [settingRows_apply h, last_cons, holds component key]
  split <;> rfl

theorem withoutProperty (holds : s.Holds steps) (component : Option String) (key : String) :
    (s.withoutProperty key component).Holds (.remove component key :: steps) := by
  have removed : SettingStep.apply noon s (.remove component key) =
      .ok (s.withoutProperty key component) := rfl
  exact holds.apply removed

theorem of_properties_eq (holds : s.Holds steps) (h : t.properties = s.properties) :
    t.Holds steps := by
  intro component key
  rw [settingRows, h]
  exact holds component key

variable (holds : s.Holds steps)
include holds

theorem countProperty (component : Option String) (key : String) :
    s.countProperty key component = if (last steps component key).isSome then 1 else 0 := by
  rw [countProperty_eq_length, ← List.length_map, holds component key]
  cases last steps component key <;> rfl

theorem withoutProperty_of_absent (absent : last steps component key = none) :
    s.withoutProperty key component = s := by
  have none : s.settingRows component key = [] := by
    simpa [absent] using holds component key
  have kept : (s.withoutProperty key component).properties = s.properties := by
    rw [properties_withoutProperty]
    refine List.filter_eq_self.2 fun row hrow => ?_
    have := List.filter_eq_nil_iff.1 none row hrow
    simpa [← not_and_or] using this
  show { s with properties := (s.withoutProperty key component).properties } = s
  rw [kept]

end Holds

def filled? (value : Option String) : Option String :=
  value.bind fun text =>
    let trimmed := Text.trim text
    if trimmed.isEmpty then none else some trimmed

theorem lookup_mergedInto {rows : List PropertyRow} (values : List (String × Option String))
    (found : Option (Option String))
    (h : (rows.filter (·.key = key)).map (·.value) = found.toList) :
    (mergedInto values rows).lookup key = found.or (values.lookup key) := by
  induction rows generalizing values found with
  | nil =>
    cases found with
    | none => rfl
    | some value => cases h
  | cons row rest ih =>
    rw [mergedInto]
    by_cases hkey : row.key = key
    · rw [List.filter_cons_of_pos (by simpa using hkey), List.map_cons] at h
      cases found with
      | none => cases h
      | some value =>
        obtain ⟨rfl, hrest⟩ := List.cons.inj h
        rw [ih _ none hrest, hkey, Json.lookup_put_self]
        rfl
    · rw [List.filter_cons_of_neg (by simpa using hkey)] at h
      rw [ih _ _ h, Json.lookup_put_other _ _ (Ne.symm hkey)]

theorem lookup_configurationOf (values : List (String × Option String)) (key : String) :
    (configurationOf values).values.lookup key = (values.lookup key).map (·.getD "") := by
  rw [configurationOf]
  induction values with
  | nil => rfl
  | cons e rest ih =>
    obtain ⟨name, value⟩ := e
    rw [List.map_cons, List.lookup_cons, List.lookup_cons]
    cases key == name
    · exact ih
    · rfl

theorem get?_configurationOf (values : List (String × Option String)) (key : String) :
    (configurationOf values).get? key = (values.lookup key).bind filled? := by
  have blank : (Text.trim "").isEmpty = true := by decide +kernel
  rw [Configuration.get?, lookup_configurationOf]
  rcases values.lookup key with _ | _ | text
  · rfl
  · exact if_pos blank
  · simp only [Option.map_some, Option.getD_some, Option.bind_some, filled?]

theorem lookup_configurationFor {text : String}
    (h : (s.settingRows component key).map (·.value) = [some text]) :
    (s.configurationFor component).values.lookup key = some text := by
  have row : ((s.propertyRows component).filter (·.key = key)).map (·.value) =
      (some (some text)).toList := by
    rw [filter_propertyRows, h]
    rfl
  cases component with
  | none =>
    rw [configurationFor, lookup_configurationOf, propertiesOf, lookup_mergedInto _ _ row]
    rfl
  | some project => rw [configurationFor, lookup_configurationOf, lookup_mergedInto _ _ row]; rfl

theorem Holds.lookup_propertiesOf (holds : s.Holds steps) (component : Option String)
    (key : String) :
    (s.propertiesOf component).lookup key = last steps component key := by
  have found := holds component key
  rw [← filter_propertyRows] at found
  rw [propertiesOf, lookup_mergedInto _ _ found]
  exact Option.or_none

theorem Holds.get?_global (holds : s.Holds steps) (key : String) :
    (s.configurationFor none).get? key = (last steps none key).bind filled? := by
  rw [configurationFor, get?_configurationOf, holds.lookup_propertiesOf]

theorem Holds.get?_project (holds : s.Holds steps) (project key : String) :
    (s.configurationFor (some project)).get? key =
      ((last steps (some project) key).or (last steps none key)).bind filled? := by
  have found := holds (some project) key
  rw [← filter_propertyRows] at found
  rw [configurationFor, get?_configurationOf, lookup_mergedInto _ _ found,
    holds.lookup_propertiesOf]

end Store

end AnalysisWebhooks
