import AnalysisWebhooks.Analysis.Document
import AnalysisWebhooks.Issue.Document

namespace AnalysisWebhooks

open Check Calendar

structure FinishedAnalysis where
  report : AnalysisReport
  allStepsExecuted : Bool
  mainProject : Option RawText
deriving DecidableEq, Repr

namespace FinishedAnalysis

def stepsKey : Key := ⟨"allStepsExecuted", "all_steps_executed"⟩

def keys : List Key :=
  AnalysisReport.keys ++ [stepsKey, ComponentRef.mainProjectKey]

def read : Json → Check FinishedAnalysis :=
  record "AnalysisFinishedRequest" <| closed keys fun m =>
    FinishedAnalysis.mk <$> AnalysisReport.ofMembers m
      <*> optional stepsKey true boolean m
      <*> maybe ComponentRef.mainProjectKey text m

end FinishedAnalysis

structure IssueChange where
  changes : ChangeSet
  login : Option RawText
deriving DecidableEq, Repr

namespace IssueChange

def keys : List Key := ChangeSet.keys ++ [.word "login"]

def ofMembers (m : Json.Members) : Check IssueChange :=
  IssueChange.mk <$> ChangeSet.ofMembers m <*> maybe (.word "login") text m

def context (c : IssueChange) (now : Moment) : ChangeContext :=
  match c.login with
  | some login => if login.isEmpty then .scan now else .user login now
  | none => .scan now

end IssueChange

structure IssueTransition where
  change : IssueChange
  transition : Option RawText
deriving DecidableEq, Repr

namespace IssueTransition

def keys : List Key := IssueChange.keys ++ [.word "transition"]

def read : Json → Check IssueTransition :=
  record "IssueTransitionRequest" <| closed keys fun m =>
    IssueTransition.mk <$> IssueChange.ofMembers m <*> maybe (.word "transition") text m

end IssueTransition

structure IssueTypeChange where
  change : IssueChange
  type : RawText
deriving DecidableEq, Repr

namespace IssueTypeChange

def keys : List Key := IssueChange.keys ++ [.word "type"]

def read : Json → Check IssueTypeChange :=
  record "IssueTypeRequest" <| closed keys fun m =>
    IssueTypeChange.mk <$> IssueChange.ofMembers m <*> required (.word "type") text m

end IssueTypeChange

inductive SettingValue where
  | one (text : RawText)
  | many (texts : List RawText)
deriving DecidableEq, Repr

def SettingValue.text : SettingValue → RawText
  | one text => text
  | many texts => .joined ',' ((texts.map RawText.trim).filter (!·.isEmpty))

structure SetSetting where
  key : RawText
  value : SettingValue
  component : Option RawText
deriving DecidableEq, Repr

namespace SetSetting

def keys : List Key := [.word "key", .word "value", .word "values", .word "component"]

def ofFields (key : RawText) (value : Option RawText) (values : Option (List RawText))
    (component : Option RawText) : Check SetSetting :=
  match value, values with
  | some value, none => ok ⟨key, .one value, component⟩
  | none, some values => ok ⟨key, .many values, component⟩
  | _, _ => fail (.rule "Exactly one of 'value' and 'values' must be provided")

def read : Json → Check SetSetting :=
  record "SetSettingRequest" fun m =>
    (closed keys (fun m =>
      ofFields <$> required (.word "key") text m
        <*> maybe (.word "value") text m
        <*> maybe (.word "values") (list text) m
        <*> maybe (.word "component") text m) m).andThen id

end SetSetting

structure ResetSetting where
  key : RawText
  component : Option RawText
deriving DecidableEq, Repr

namespace ResetSetting

def keys : List Key := [.word "key", .word "component"]

def read : Json → Check ResetSetting :=
  record "ResetSettingRequest" <| closed keys fun m =>
    ResetSetting.mk <$> required (.word "key") text m <*> maybe (.word "component") text m

end ResetSetting

end AnalysisWebhooks
