import AnalysisWebhooks.Check.Basic
import AnalysisWebhooks.Text.Quoted
import AnalysisWebhooks.Text.Raw

namespace AnalysisWebhooks

inductive Failure where
  | cancelled
  | outOfYears
  | oversizedInteger
  | unencodable (points : List Text.CodePoint)
  | tooManyValues
  | durationNotANumber
  | endlessDuration
  | oversizedDuration
  | duplicate (table : String) (columns : List String)
  | lacking (table column : String)
  | noTable (name : String)
  | noColumn (table column : String)
  | unknownColumn (column : String)
  | notAMember (enumeration text : String)
  | invalid (title : String) (faults : List Fault)
  | raised (kind : String) (message : String)
deriving DecidableEq, Repr

namespace Failure

def isOrdinary (f : Failure) : Bool :=
  f ≠ cancelled

def columnList (table : String) (columns : List String) : String :=
  String.intercalate ", " (columns.map fun column => table ++ "." ++ column)

def pathText (path : List Step) : String :=
  String.intercalate "." <| path.map fun
    | .key name => name
    | .index place => toString place

def faultText (fault : Fault) : String :=
  pathText fault.path ++ ": " ++ fault.cause.message?.getD "Input should be a valid datetime"

def unencodableText (points : List Text.CodePoint) : String :=
  let start := points.findIdx Text.CodePoint.isLone
  let place := match (points.drop start).takeWhile Text.CodePoint.isLone with
    | [.lone u] =>
      " '\\u" ++ String.ofList (Text.hexDigits 4 u.val) ++ "' in position " ++ toString start
    | run => "s in position " ++ toString start ++ "-" ++ toString (start + run.length - 1)
  "'utf-8' codec can't encode character" ++ place ++ ": surrogates not allowed"

def message : Failure → String
  | cancelled => ""
  | outOfYears => "date value out of range"
  | oversizedInteger => "integer does not fit into 64 bits"
  | unencodable points => unencodableText points
  | tooManyValues => "too many SQL variables"
  | durationNotANumber => "cannot convert float NaN to integer"
  | endlessDuration => "cannot convert float infinity to integer"
  | oversizedDuration => "int too large to convert to float"
  | duplicate table columns => "UNIQUE constraint failed: " ++ columnList table columns
  | lacking table column => "NOT NULL constraint failed: " ++ columnList table [column]
  | noTable name => "no such table: " ++ name
  | noColumn table column => "table " ++ table ++ " has no column named " ++ column
  | unknownColumn column => "no such column: " ++ column
  | notAMember enumeration text => Text.quoted text ++ " is not a valid " ++ enumeration
  | invalid title faults => String.intercalate "\n" (title :: faults.map faultText)
  | raised _ message => message

end Failure

def RawText.encoded : RawText → Except Failure String
  | plain text => .ok text
  | broken units _ => .error (.unencodable (Text.codePoints units))

end AnalysisWebhooks
