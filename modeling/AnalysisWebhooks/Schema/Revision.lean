import AnalysisWebhooks.Decimal.Reading

namespace AnalysisWebhooks

open Decimal

inductive Revision where
  | initial
  | analysisColumn
  | analysisFilled
deriving DecidableEq, Repr

namespace Revision

def id : Revision → String
  | initial => "0001_initial"
  | analysisColumn => "0002_add_analysis_uuid_to_webhook_deliveries"
  | analysisFilled => "0003_populate_analysis_uuid_on_webhook_deliveries"

def line : List Revision := [initial, analysisColumn, analysisFilled]

def head : Revision := analysisFilled

def number : Revision → Nat
  | initial => 1
  | analysisColumn => 2
  | analysisFilled => 3

def level : Option Revision → Nat
  | none => 0
  | some r => r.number

def atLevel? : Int → Option (Option Revision)
  | 0 => some none
  | 1 => some (some initial)
  | 2 => some (some analysisColumn)
  | 3 => some (some analysisFilled)
  | _ => none

theorem atLevel?_level (r : Option Revision) : atLevel? (level r) = some r := by
  cases r with
  | none => rfl
  | some r => cases r <;> rfl

def startsWith (start text : String) : Bool :=
  start.toList.isPrefixOf text.toList

end Revision

inductive RevisionFault where
  | unknown (text : String)
  | tooFar (text : String) (steps : Nat)
  | notBelow (text : String)
deriving DecidableEq, Repr

def RevisionFault.message : RevisionFault → String
  | unknown text => "Can't locate revision identified by '" ++ text ++ "'"
  | tooFar text steps =>
    "Relative revision " ++ text ++ " didn't produce " ++ toString steps ++ " migrations"
  | notBelow text =>
    "Destination " ++ text ++ " is not a valid downgrade target from current head(s)"

structure Steps where
  text : String
  forward : Bool
  count : Nat
deriving DecidableEq, Repr

def Steps.ofText? (text : String) : Option Steps :=
  match text.toList with
  | sign :: rest =>
    let digits := rest.takeWhile isDigit
    if (sign = '+' ∨ sign = '-') ∧ digits ≠ [] then
      some ⟨String.ofList (sign :: digits), sign = '+', ofDigits digits⟩
    else none
  | [] => none

def Steps.fault (s : Steps) : RevisionFault :=
  .tooFar s.text s.count

namespace Revision

def locate (text : String) : Except RevisionFault (Option Revision) :=
  if text = "head" ∨ text = "heads" then .ok (some head)
  else if text = "base" then .ok none
  else
    match line.filter fun r => startsWith text r.id with
    | [r] => .ok (some r)
    | _ => .error (.unknown text)

def upgradeTarget (current : Option Revision) (text : String) :
    Except RevisionFault (Option Revision) :=
  match Steps.ofText? text with
  | none => locate text
  | some steps =>
    if steps.forward ∧ 0 < steps.count then
      match atLevel? (level current + steps.count) with
      | some target => .ok target
      | none => .error steps.fault
    else .error steps.fault

def downgradeTarget (current : Option Revision) (text : String) :
    Except RevisionFault (Option Revision) :=
  match Steps.ofText? text with
  | none => do
    let target ← locate text
    if level target ≤ level current then return target else throw (.notBelow text)
  | some steps =>
    if !steps.forward ∧ 0 < steps.count then
      match atLevel? (level current - steps.count) with
      | some target => .ok target
      | none => .error steps.fault
    else .error steps.fault

def between (low high : Option Revision) : List Revision :=
  line.filter fun r => level low < r.number ∧ r.number ≤ level high

end Revision

end AnalysisWebhooks
