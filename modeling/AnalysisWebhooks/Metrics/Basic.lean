import AnalysisWebhooks.Decimal.Layout

namespace AnalysisWebhooks

abbrev Tally (κ : Type) := List (κ × Nat)

namespace Tally

variable {κ : Type} [DecidableEq κ]

def add (key : κ) (n : Nat) : Tally κ → Tally κ
  | [] => [(key, n)]
  | (k, count) :: rest => if k = key then (k, count + n) :: rest else (k, count) :: add key n rest

def count (t : Tally κ) (key : κ) : Nat :=
  (t.lookup key).getD 0

def total : Tally κ → Nat
  | [] => 0
  | (_, n) :: rest => n + total rest

end Tally

inductive ErrorContext where
  | issueLookup
  | issueWebhooks
  | analysisWebhooks
  | issueTransition
  | issueTypeChange
deriving DecidableEq, Repr

def ErrorContext.name : ErrorContext → String
  | issueLookup => "issue_webhooks_lookup"
  | issueWebhooks => "issue_webhooks"
  | analysisWebhooks => "analysis_webhooks"
  | issueTransition => "issue_transition"
  | issueTypeChange => "issue_type_change"

inductive Trigger where
  | analysis
  | issue
deriving DecidableEq, Repr

def Trigger.name : Trigger → String
  | analysis => "analysis"
  | issue => "issue"

inductive Decision where
  | disabled
  | noWebhooks
  | dispatched
  | error
deriving DecidableEq, Repr

def Decision.name : Decision → String
  | disabled => "disabled"
  | noWebhooks => "no_webhooks"
  | dispatched => "dispatched"
  | error => "error"

structure Metrics where
  requests : Tally String := []
  errors : Tally ErrorContext := []
  decisions : Tally (Trigger × Decision) := []
  deliveries : Tally Bool := []
  durations : List Nat := []
  pruned : Nat := 0
  taskErrors : Tally String := []
deriving DecidableEq, Repr

end AnalysisWebhooks
