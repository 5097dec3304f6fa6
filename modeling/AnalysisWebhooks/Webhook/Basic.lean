import AnalysisWebhooks.Calendar.Moment
import AnalysisWebhooks.Decimal.Reading
import AnalysisWebhooks.Text.Raw

namespace AnalysisWebhooks

open Calendar

structure Subject where
  project : String
  task : Option String
  analysis : Option RawText
deriving DecidableEq, Repr

structure Webhook where
  subject : Subject
  name : String
  url : String
deriving DecidableEq, Repr

structure Payload where
  projectKey : String
  body : String
deriving DecidableEq, Repr

structure Delivery where
  webhook : Webhook
  payload : Payload
  time : Moment
  httpStatus : Option Int
  durationMs : Option Int
  error : Option String
deriving DecidableEq, Repr

namespace Delivery

def accepted (status : Int) : Bool :=
  200 ≤ status && status < 300

def success (d : Delivery) : Bool :=
  d.error.isNone && d.httpStatus.any accepted

def errorMessage (d : Delivery) : Option String :=
  match d.error, d.httpStatus with
  | some error, _ => some error
  | none, some status =>
    if accepted status then none else some ("Server responded with HTTP " ++ toString status)
  | none, none => none

end Delivery

end AnalysisWebhooks
