import AnalysisWebhooks.Schema.Revision

namespace AnalysisWebhooks

inductive ColumnType where
  | integer
  | varchar
  | shortVarchar
  | longText
  | boolean
deriving DecidableEq, Repr

def ColumnType.name : ColumnType → String
  | integer => "INTEGER"
  | varchar => "VARCHAR"
  | shortVarchar => "VARCHAR(32)"
  | longText => "TEXT"
  | boolean => "BOOLEAN"

structure Column where
  name : String
  type : ColumnType
  needsValue : Bool
  isKey : Bool := false
deriving DecidableEq, Repr

namespace Column

def filled (name : String) (type : ColumnType := .varchar) : Column :=
  ⟨name, type, true, false⟩

def free (name : String) (type : ColumnType := .varchar) : Column :=
  ⟨name, type, false, false⟩

def key (name : String) (type : ColumnType := .varchar) : Column :=
  ⟨name, type, true, true⟩

end Column

structure Table where
  name : String
  columns : List Column
deriving DecidableEq, Repr

structure TableIndex where
  name : String
  table : String
  unique : Bool
  columns : List String
deriving DecidableEq, Repr

namespace Table

def version : Table :=
  ⟨"alembic_version", [.key "version_num" .shortVarchar]⟩

def properties : Table :=
  ⟨"properties", [.key "id" .integer, .filled "prop_key", .free "component_uuid",
    .free "text_value" .longText, .filled "created_at"]⟩

def components : Table :=
  ⟨"components", [.key "uuid", .filled "kee", .filled "name", .filled "root_uuid",
    .free "main_branch_project_uuid"]⟩

def branches : Table :=
  ⟨"project_branches", [.key "uuid", .filled "project_uuid", .filled "kee",
    .filled "branch_type"]⟩

def snapshots : Table :=
  ⟨"snapshots", [.key "uuid", .filled "component_uuid", .filled "status",
    .filled "islast" .boolean, .filled "created_at"]⟩

def activities : Table :=
  ⟨"ce_activity", [.key "uuid", .filled "task_type", .free "component_uuid",
    .free "analysis_uuid", .filled "status", .filled "is_last" .boolean, .filled "submitted_at",
    .free "executed_at"]⟩

def firstDeliveries : Table :=
  ⟨"webhook_deliveries", [.key "uuid", .filled "project_uuid", .free "ce_task_uuid",
    .filled "name", .filled "url", .filled "success" .boolean, .free "http_status" .integer,
    .free "duration_ms" .integer, .filled "payload" .longText,
    .free "error_stacktrace" .longText, .filled "created_at"]⟩

def deliveries : Table :=
  { firstDeliveries with columns := firstDeliveries.columns ++ [.free "analysis_uuid"] }

def ofRevision : Option Revision → List Table
  | none => []
  | some .initial => [properties, components, branches, snapshots, activities, firstDeliveries]
  | some _ => [properties, components, branches, snapshots, activities, deliveries]

end Table

namespace TableIndex

def first : List TableIndex :=
  [⟨"idx_ce_activity_analysis_uuid", "ce_activity", false, ["analysis_uuid"]⟩,
    ⟨"idx_components_root_uuid", "components", false, ["root_uuid"]⟩,
    ⟨"idx_project_branches_project_kee", "project_branches", true, ["project_uuid", "kee"]⟩,
    ⟨"idx_properties_key_component", "properties", false, ["prop_key", "component_uuid"]⟩,
    ⟨"idx_snapshots_component_islast", "snapshots", false, ["component_uuid", "islast"]⟩,
    ⟨"idx_webhook_deliveries_ce_task_uuid", "webhook_deliveries", false, ["ce_task_uuid"]⟩,
    ⟨"idx_webhook_deliveries_project_created_at", "webhook_deliveries", false,
      ["project_uuid", "created_at"]⟩]

def ofRevision : Option Revision → List TableIndex
  | none => []
  | some .initial => first
  | some _ =>
    ⟨"idx_webhook_deliveries_analysis_uuid", "webhook_deliveries", false, ["analysis_uuid"]⟩ ::
      first

end TableIndex

end AnalysisWebhooks
