import AnalysisWebhooks.Check.Record
import AnalysisWebhooks.Check.Scalar
import AnalysisWebhooks.Webhook.Basic

namespace AnalysisWebhooks

open Check

namespace Subject

def projectKey : Key := ⟨"projectUuid", "project_uuid"⟩

def taskKey : Key := ⟨"ceTaskUuid", "ce_task_uuid"⟩

def analysisKey : Key := ⟨"analysisUuid", "analysis_uuid"⟩

def keys : List Key := [projectKey, taskKey, analysisKey]

def read : Json → Check Subject :=
  record "Analysis" <| closed keys fun m =>
    Subject.mk <$> required projectKey plainText m
      <*> maybe taskKey plainText m
      <*> maybe analysisKey text m

end Subject

namespace Webhook

def keys : List Key :=
  [Subject.projectKey, .word "name", .word "url", Subject.taskKey, Subject.analysisKey]

def read : Json → Check Webhook :=
  record "Webhook" <| closed keys fun m =>
    (fun project name url task analysis => ⟨⟨project, task, analysis⟩, name, url⟩)
      <$> required Subject.projectKey plainText m
      <*> required (.word "name") plainText m
      <*> required (.word "url") plainText m
      <*> maybe Subject.taskKey plainText m
      <*> maybe Subject.analysisKey text m

end Webhook

namespace Payload

def projectKeyKey : Key := ⟨"projectKey", "project_key"⟩

def bodyKey : Key := ⟨"jsonBody", "json_body"⟩

def keys : List Key := [projectKeyKey, bodyKey]

def read : Json → Check Payload :=
  record "WebhookPayload" <| closed keys fun m =>
    Payload.mk <$> required projectKeyKey plainText m <*> required bodyKey plainText m

end Payload

namespace Delivery

def statusKey : Key := ⟨"httpStatus", "http_status"⟩

def durationKey : Key := ⟨"durationMs", "duration_ms"⟩

def keys : List Key :=
  [.word "webhook", .word "payload", .word "at", statusKey, durationKey, .word "error"]

def read : Json → Check Delivery :=
  record "WebhookDelivery" <| closed keys fun m =>
    Delivery.mk <$> required (.word "webhook") Webhook.read m
      <*> required (.word "payload") Payload.read m
      <*> required (.word "at") moment m
      <*> maybe statusKey integer m
      <*> maybe durationKey integer m
      <*> maybe (.word "error") plainText m

end Delivery

end AnalysisWebhooks
