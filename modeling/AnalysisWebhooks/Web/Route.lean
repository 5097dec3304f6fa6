import AnalysisWebhooks.Text.Form

namespace AnalysisWebhooks

inductive Route where
  | status
  | metrics
  | analysisFinished
  | issueTransition
  | issueType
  | deliveries
  | delivery
  | setSetting
  | resetSetting
deriving DecidableEq, Repr

namespace Route

def path : Route → String
  | status => "/status"
  | metrics => "/metrics"
  | analysisFinished => "/api/ce/analysis_finished"
  | issueTransition => "/api/issues/do_transition"
  | issueType => "/api/issues/set_type"
  | deliveries => "/api/webhooks/deliveries"
  | delivery => "/api/webhooks/delivery"
  | setSetting => "/api/settings/set"
  | resetSetting => "/api/settings/reset"

def all : List Route :=
  [status, metrics, analysisFinished, issueTransition, issueType, deliveries, delivery, setSetting,
    resetSetting]

def method : Route → String
  | status | metrics | deliveries | delivery => "GET"
  | analysisFinished | issueTransition | issueType | setSetting | resetSetting => "POST"

def ofPath? (p : String) : Option Route :=
  all.find? fun route => route.path = Text.dropEnd '/' p

end Route

def parameter? (query : String) (name : String) : Option String :=
  ((Text.formPairs query.toList).find? fun (key, value) => key = name && !value.isEmpty).map (·.2)

end AnalysisWebhooks
