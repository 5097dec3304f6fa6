import AnalysisWebhooks.Json.Basic
import AnalysisWebhooks.Text.Blank
import AnalysisWebhooks.Text.Quoted
import AnalysisWebhooks.Webhook.Basic

namespace AnalysisWebhooks

structure Configuration where
  values : List (String × String)
deriving DecidableEq, Repr

namespace Configuration

def get? (c : Configuration) (key : String) : Option String :=
  match c.values.lookup key with
  | some value =>
    let trimmed := Text.trim value
    if trimmed.isEmpty then none else some trimmed
  | none => none

def items (c : Configuration) (key : String) : List String :=
  match c.values.lookup key with
  | some value => Text.commaItems value
  | none => []

def summary (c : Configuration) : String :=
  let entries := c.values.map fun (key, value) => Text.quoted key ++ ": " ++ Text.quoted value
  "MapConfiguration(\x7b" ++ String.intercalate ", " entries ++ "\x7d)"

def globalScope : String := "sonar.webhooks.global"

def projectScope : String := "sonar.webhooks.project"

def scopeLimit : Nat := 10

def webhookKeys (c : Configuration) (scope : String) : List String :=
  ((c.items scope).take scopeLimit).map fun id => scope ++ "." ++ id

def webhook? (c : Configuration) (subject : Subject) (key : String) : Option Webhook :=
  match c.get? (key ++ ".name"), c.get? (key ++ ".url") with
  | some name, some url => some ⟨subject, name, url⟩
  | _, _ => none

def webhooks (c : Configuration) (subject : Subject) : List Webhook :=
  (c.webhookKeys globalScope ++ c.webhookKeys projectScope).filterMap (c.webhook? subject)

def isEnabled (c : Configuration) : Bool :=
  [globalScope, projectScope].any fun scope => !(c.items scope).isEmpty

end Configuration

end AnalysisWebhooks
