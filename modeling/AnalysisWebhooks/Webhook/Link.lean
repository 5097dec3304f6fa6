import AnalysisWebhooks.Analysis.Basic
import AnalysisWebhooks.Text.Form

namespace AnalysisWebhooks

open Text

structure Server where
  url : String
deriving DecidableEq, Repr

namespace Server

def ofText (url : String) : Server :=
  ⟨dropEnd '/' url⟩

def query (fields : List (String × String)) : String :=
  String.intercalate "&" (fields.map fun (name, value) => name ++ "=" ++ formEncode value)

def page (s : Server) (path : String) (fields : List (String × String)) : String :=
  s.url ++ path ++ "?" ++ query fields

def dashboardPath : String := "/project/dashboard"

def issuesPath : String := "/project/issues"

def projectLink (s : Server) (key : String) : String :=
  s.page dashboardPath [("id", key)]

def branchName (b : Branch) : String :=
  (b.name.map RawText.shown).getD ""

def branchLink (s : Server) (key : String) (b : Branch) : String :=
  let name := branchName b
  match b.kind with
  | .long =>
    if b.isMain then s.projectLink key
    else s.page dashboardPath [("branch", name), ("id", key)]
  | .short => s.page issuesPath [("branch", name), ("id", key), ("resolved", "false")]

end Server

end AnalysisWebhooks
