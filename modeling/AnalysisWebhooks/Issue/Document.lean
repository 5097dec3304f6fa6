import AnalysisWebhooks.Check.Record
import AnalysisWebhooks.Check.Scalar
import AnalysisWebhooks.Issue.Basic

namespace AnalysisWebhooks

open Check

namespace IssueRef

def componentKey : Key := ⟨"componentUuid", "component_uuid"⟩

def keys : List Key := [.word "key", componentKey]

def read : Json → Check IssueRef :=
  record "IssueRef" <| closed keys fun m =>
    IssueRef.mk <$> required (.word "key") text m <*> required componentKey text m

end IssueRef

namespace ComponentRef

def rootKey : Key := ⟨"rootUuid", "root_uuid"⟩

def mainProjectKey : Key := ⟨"mainBranchProjectUuid", "main_branch_project_uuid"⟩

def keys : List Key :=
  [.word "uuid", .word "key", .word "name", rootKey, mainProjectKey]

def read : Json → Check ComponentRef :=
  record "ComponentRef" <| closed keys fun m =>
    ComponentRef.mk <$> required (.word "uuid") text m
      <*> required (.word "key") text m
      <*> required (.word "name") text m
      <*> required rootKey text m
      <*> maybe mainProjectKey text m

end ComponentRef

namespace ChangeSet

def keys : List Key := [.word "issues", .word "components"]

def ofMembers (m : Json.Members) : Check ChangeSet :=
  ChangeSet.mk <$> optional (.word "issues") [] (sequence IssueRef.read) m
    <*> optional (.word "components") [] (sequence ComponentRef.read) m

def read : Json → Check ChangeSet :=
  record "IssueChangeSet" (closed keys ofMembers)

end ChangeSet

namespace ChangeContext

def keys : List Key := [.word "date", .word "login"]

def read : Json → Check ChangeContext :=
  record "IssueChangeContext" <| closed keys fun m =>
    ChangeContext.mk <$> required (.word "date") moment m <*> maybe (.word "login") text m

end ChangeContext

end AnalysisWebhooks
