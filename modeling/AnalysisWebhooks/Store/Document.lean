import AnalysisWebhooks.Issue.Document
import AnalysisWebhooks.Store.Row

namespace AnalysisWebhooks

open Calendar Check

def Json.textOrNull : Option String → Json
  | some s => .text s
  | none => .null

def Json.intOrNull : Option Int → Json
  | some n => .int n
  | none => .null

def Json.ofUtc (m : Moment) : Json :=
  .text (String.ofList m.utcChars)

namespace Component

def readRow : Json → Check Component :=
  record "ComponentRow" fun m =>
    Component.mk <$> required (.word "uuid") plainText m
      <*> required (.word "key") plainText m
      <*> required (.word "name") plainText m
      <*> required (.word "root_uuid") plainText m
      <*> maybe (.word "main_branch_project_uuid") plainText m

end Component

namespace BranchRow

def ofDocument : Json → Check (BranchRow BranchKind) :=
  record title fun m =>
    BranchRow.mk <$> required (.word "uuid") plainText m
      <*> required (.word "project_uuid") plainText m
      <*> required (.word "key") plainText m
      <*> required (.word "branch_type") (oneOf BranchKind.names) m

end BranchRow

namespace SnapshotRow

def ofDocument : Json → Check (SnapshotRow Moment) :=
  record title fun m =>
    SnapshotRow.mk <$> required (.word "uuid") plainText m
      <*> required (.word "component_uuid") plainText m
      <*> required (.word "status") plainText m
      <*> required (.word "islast") boolean m
      <*> required (.word "created_at") storedMoment m

end SnapshotRow

namespace ActivityRow

def ofDocument : Json → Check (ActivityRow TaskStatus Moment) :=
  record title fun m =>
    ActivityRow.mk <$> required (.word "uuid") plainText m
      <*> required (.word "task_type") plainText m
      <*> required (.word "component_uuid") (nullable plainText) m
      <*> maybe (.word "analysis_uuid") plainText m
      <*> required (.word "status") (oneOf TaskStatus.names) m
      <*> required (.word "is_last") boolean m
      <*> required (.word "submitted_at") storedMoment m
      <*> maybe (.word "executed_at") storedMoment m

end ActivityRow

namespace DeliveryRow

def ofDocument : Json → Check (DeliveryRow (Option String) Moment) :=
  record title fun m =>
    DeliveryRow.mk <$> required (.word "uuid") plainText m
      <*> required (.word "project_uuid") plainText m
      <*> maybe (.word "ce_task_uuid") plainText m
      <*> maybe (.word "analysis_uuid") plainText m
      <*> required (.word "name") plainText m
      <*> required (.word "url") plainText m
      <*> required (.word "success") boolean m
      <*> maybe (.word "http_status") integer m
      <*> maybe (.word "duration_ms") integer m
      <*> maybe (.word "payload") plainText m
      <*> maybe (.word "error_stacktrace") plainText m
      <*> required (.word "created_at") storedMoment m

def summary (row : DeliveryRow (Option String) Moment) : Json.Members :=
  [("uuid", .text row.uuid), ("project_uuid", .text row.project),
    ("ce_task_uuid", .textOrNull row.task), ("analysis_uuid", .textOrNull row.analysis),
    ("name", .text row.name), ("url", .text row.url), ("success", .bool row.success),
    ("http_status", .intOrNull row.httpStatus), ("duration_ms", .intOrNull row.durationMs),
    ("error_stacktrace", .textOrNull row.error), ("created_at", .ofUtc row.createdAt)]

def members (row : DeliveryRow (Option String) Moment) : Json.Members :=
  row.summary ++ ([("payload", .textOrNull row.payload)] : Json.Members)

end DeliveryRow

end AnalysisWebhooks
