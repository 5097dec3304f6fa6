import AnalysisWebhooks.Failure
import AnalysisWebhooks.Json.Basic
import AnalysisWebhooks.Metrics.Exposition

namespace AnalysisWebhooks

structure Request where
  method : String
  path : String
  query : String
  body : String
deriving DecidableEq, Repr

inductive Refusal where
  | badRequest (message : String)
  | invalid (title : String) (faults : List Fault)
  | notFound (message : String)
  | notAllowed (message : String)
  | broken
deriving DecidableEq, Repr

namespace Refusal

def status : Refusal → Nat
  | badRequest _ => 400
  | invalid .. => 400
  | notFound _ => 404
  | notAllowed _ => 405
  | broken => 500

def description : Refusal → String
  | badRequest _ => "Bad Request"
  | invalid .. => "Bad Request"
  | notFound _ => "Not Found"
  | notAllowed _ => "Method Not Allowed"
  | broken => "Internal Server Error"

def message : Refusal → String
  | badRequest message => message
  | invalid title faults => (Failure.invalid title faults).message
  | notFound message => message
  | notAllowed message => message
  | broken => "The application encountered an unexpected error and could not continue."

def document (r : Refusal) : Json :=
  .object [("description", .text r.description), ("status", .int r.status),
    ("message", .text r.message)]

end Refusal

inductive Response where
  | done
  | text (content : String)
  | document (content : Json)
  | metrics (samples : List Sample)
  | refused (refusal : Refusal)

def Response.status : Response → Nat
  | done => 204
  | text _ => 200
  | document _ => 200
  | metrics _ => 200
  | refused refusal => refusal.status

end AnalysisWebhooks
