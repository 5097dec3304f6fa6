import AnalysisWebhooks.Json.Basic
import AnalysisWebhooks.Store.Basic
import AnalysisWebhooks.Webhook.Configuration

namespace AnalysisWebhooks.Store

open Calendar

def withoutProperty (s : Store) (key : String) (component : Option String) : Store :=
  { s with properties := s.properties.filter fun row => row.key ≠ key || row.component ≠ component }

def countProperty (s : Store) (key : String) (component : Option String) : Nat :=
  s.properties.countP fun row => row.key = key && row.component = component

def withProperty (s : Store) (now : Moment) (key : String) (component : Option String)
    (value : Option String) : Except Failure Store := do
  let cleared := s.withoutProperty key component
  let createdAt ← storedDate now
  return { cleared with properties := cleared.properties ++ [⟨key, component, value, createdAt⟩] }

def mergedInto (values : List (String × Option String)) :
    List PropertyRow → List (String × Option String)
  | [] => values
  | row :: rest => mergedInto (Json.put values row.key row.value) rest

def propertyRows (s : Store) (component : Option String) : List PropertyRow :=
  s.properties.filter (·.component = component)

def propertiesOf (s : Store) (component : Option String) : List (String × Option String) :=
  mergedInto [] (s.propertyRows component)

def configurationOf (values : List (String × Option String)) : Configuration :=
  ⟨values.map fun (key, value) => (key, value.getD "")⟩

def configurationFor (s : Store) : (project : Option String) → Configuration
  | none => configurationOf (s.propertiesOf none)
  | some project =>
    configurationOf (mergedInto (s.propertiesOf none) (s.propertyRows (some project)))

end AnalysisWebhooks.Store
