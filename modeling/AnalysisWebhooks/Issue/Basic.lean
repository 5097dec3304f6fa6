import AnalysisWebhooks.Calendar.Moment
import AnalysisWebhooks.Text.Raw

namespace AnalysisWebhooks

open Calendar

structure IssueRef where
  key : RawText
  component : RawText
deriving DecidableEq, Repr

structure Component where
  uuid : String
  key : String
  name : String
  root : String
  mainProject : Option String
deriving DecidableEq, Repr

structure ComponentRef where
  uuid : RawText
  key : RawText
  name : RawText
  root : RawText
  mainProject : Option RawText
deriving DecidableEq, Repr

def Component.ref (c : Component) : ComponentRef :=
  ⟨c.uuid, c.key, c.name, c.root, c.mainProject.map .plain⟩

structure ChangeSet where
  issues : List IssueRef
  components : List ComponentRef
deriving DecidableEq, Repr

def ChangeSet.isEmpty (c : ChangeSet) : Bool :=
  c.issues.isEmpty

structure ChangeContext where
  date : Moment
  login : Option RawText
deriving DecidableEq, Repr

namespace ChangeContext

def isUserChange (c : ChangeContext) : Bool :=
  c.login.isSome

def scan (date : Moment) : ChangeContext :=
  ⟨date, none⟩

def user (login : RawText) (date : Moment) : ChangeContext :=
  ⟨date, some login⟩

end ChangeContext

end AnalysisWebhooks
