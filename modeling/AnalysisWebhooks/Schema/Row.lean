import AnalysisWebhooks.Json.Writer
import AnalysisWebhooks.Schema.Database
import AnalysisWebhooks.Schema.Table
import AnalysisWebhooks.Store.Document
import AnalysisWebhooks.Store.Sorted

namespace AnalysisWebhooks

def Json.ofFlag (b : Bool) : Json :=
  .int (if b then 1 else 0)

namespace PropertyRow

def cells (row : PropertyRow) : Json.Members :=
  [("prop_key", .text row.key), ("component_uuid", .textOrNull row.component),
    ("text_value", .textOrNull row.value), ("created_at", .text row.createdAt)]

end PropertyRow

namespace Component

def cells (row : Component) : Json.Members :=
  [("uuid", .text row.uuid), ("kee", .text row.key), ("name", .text row.name),
    ("root_uuid", .text row.root), ("main_branch_project_uuid", .textOrNull row.mainProject)]

end Component

namespace BranchRow

def cells (row : BranchRow String) : Json.Members :=
  [("uuid", .text row.uuid), ("project_uuid", .text row.project), ("kee", .text row.key),
    ("branch_type", .text row.kind)]

end BranchRow

namespace SnapshotRow

def cells (row : SnapshotRow String) : Json.Members :=
  [("uuid", .text row.uuid), ("component_uuid", .text row.component), ("status", .text row.status),
    ("islast", .ofFlag row.isLast), ("created_at", .text row.createdAt)]

end SnapshotRow

namespace ActivityRow

def cells (row : ActivityRow String String) : Json.Members :=
  [("uuid", .text row.uuid), ("task_type", .text row.taskType),
    ("component_uuid", .textOrNull row.component), ("analysis_uuid", .textOrNull row.analysis),
    ("status", .text row.status), ("is_last", .ofFlag row.isLast),
    ("submitted_at", .text row.submittedAt), ("executed_at", .textOrNull row.executedAt)]

end ActivityRow

namespace DeliveryRow

def cells (row : DeliveryRow String String) : Json.Members :=
  [("uuid", .text row.uuid), ("project_uuid", .text row.project),
    ("ce_task_uuid", .textOrNull row.task), ("analysis_uuid", .textOrNull row.analysis),
    ("name", .text row.name), ("url", .text row.url), ("success", .ofFlag row.success),
    ("http_status", .intOrNull row.httpStatus), ("duration_ms", .intOrNull row.durationMs),
    ("payload", .text row.payload), ("error_stacktrace", .textOrNull row.error),
    ("created_at", .text row.createdAt)]

end DeliveryRow

def Store.cells (s : Store) (table : String) : List Json.Members :=
  if table = Table.properties.name then s.properties.map PropertyRow.cells
  else if table = Table.components.name then s.components.map Component.cells
  else if table = Table.branches.name then s.branches.map BranchRow.cells
  else if table = Table.snapshots.name then s.snapshots.map SnapshotRow.cells
  else if table = Table.activities.name then s.activities.map ActivityRow.cells
  else if table = Table.deliveries.name then s.deliveries.map DeliveryRow.cells
  else []

structure NewRow where
  table : String
  values : Json.Members

namespace NewRow

def cell? (r : NewRow) (column : String) : Option Json :=
  match Json.get? r.values column with
  | some .null => none
  | value => value

def textOf : Json → String
  | .text s => s.shown
  | j => j.write

def encoded : Json → Except Failure Unit
  | .text s => s.encoded.map fun _ => ()
  | _ => .ok ()

def text? (r : NewRow) (column : String) : Option String :=
  (r.cell? column).map textOf

def text (r : NewRow) (column : String) : Except Failure String :=
  match r.text? column with
  | some s => .ok s
  | none => .error (.lacking r.table column)

def flag (r : NewRow) (column : String) : Except Failure Bool :=
  match r.cell? column with
  | some (.bool b) => .ok b
  | some (.int n) => .ok (n ≠ 0)
  | some _ => .ok false
  | none => .error (.lacking r.table column)

def int? (r : NewRow) (column : String) : Except Failure (Option Int) :=
  match r.cell? column with
  | some (.int n) => some <$> columnNumber n
  | some (.bool b) => .ok (some (if b then 1 else 0))
  | _ => .ok none

def fresh (r : NewRow) (uuid : String) (uuids : List String) : Except Failure Unit :=
  if uuids.contains uuid then .error (.duplicate r.table ["uuid"]) else .ok ()

def property (r : NewRow) : Except Failure PropertyRow := do
  return {
    key := ← r.text "prop_key"
    component := r.text? "component_uuid"
    value := r.text? "text_value"
    createdAt := ← r.text "created_at" }

def component (r : NewRow) : Except Failure Component := do
  return {
    uuid := ← r.text "uuid"
    key := ← r.text "kee"
    name := ← r.text "name"
    root := ← r.text "root_uuid"
    mainProject := r.text? "main_branch_project_uuid" }

def branch (r : NewRow) : Except Failure (BranchRow String) := do
  return {
    uuid := ← r.text "uuid"
    project := ← r.text "project_uuid"
    key := ← r.text "kee"
    kind := ← r.text "branch_type" }

def snapshot (r : NewRow) : Except Failure (SnapshotRow String) := do
  return {
    uuid := ← r.text "uuid"
    component := ← r.text "component_uuid"
    status := ← r.text "status"
    isLast := ← r.flag "islast"
    createdAt := ← r.text "created_at" }

def activity (r : NewRow) : Except Failure (ActivityRow String String) := do
  return {
    uuid := ← r.text "uuid"
    taskType := ← r.text "task_type"
    component := r.text? "component_uuid"
    analysis := r.text? "analysis_uuid"
    status := ← r.text "status"
    isLast := ← r.flag "is_last"
    submittedAt := ← r.text "submitted_at"
    executedAt := r.text? "executed_at" }

def delivery (r : NewRow) : Except Failure (DeliveryRow String String) := do
  return {
    uuid := ← r.text "uuid"
    project := ← r.text "project_uuid"
    task := r.text? "ce_task_uuid"
    analysis := r.text? "analysis_uuid"
    name := ← r.text "name"
    url := ← r.text "url"
    success := ← r.flag "success"
    httpStatus := ← r.int? "http_status"
    durationMs := ← r.int? "duration_ms"
    payload := ← r.text "payload"
    error := r.text? "error_stacktrace"
    createdAt := ← r.text "created_at" }

def insertInto (r : NewRow) (s : Store) : Except Failure Store := do
  if r.table = Table.properties.name then
    return { s with properties := s.properties ++ [← r.property] }
  else if r.table = Table.components.name then
    let row ← r.component
    r.fresh row.uuid (s.components.map (·.uuid))
    return { s with components := s.components ++ [row] }
  else if r.table = Table.branches.name then
    let row ← r.branch
    if s.branches.any fun b => b.project = row.project && b.key = row.key then
      throw (.duplicate r.table ["project_uuid", "kee"])
    r.fresh row.uuid (s.branches.map (·.uuid))
    return { s with branches := s.branches ++ [row] }
  else if r.table = Table.snapshots.name then
    let row ← r.snapshot
    r.fresh row.uuid (s.snapshots.map (·.uuid))
    return { s with snapshots := s.snapshots ++ [row] }
  else if r.table = Table.activities.name then
    let row ← r.activity
    r.fresh row.uuid (s.activities.map (·.uuid))
    return { s with activities := s.activities ++ [row] }
  else if r.table = Table.deliveries.name then
    let row ← r.delivery
    r.fresh row.uuid (s.deliveries.map (·.uuid))
    return { s with deliveries := s.deliveries ++ [row] }
  else throw (.noTable r.table)

end NewRow

namespace Database

def table? (db : Database) (name : String) : Except Failure Table :=
  match (Table.ofRevision db.revision).find? (·.name = name) with
  | some table => .ok table
  | none => .error (.noTable name)

def insert (r : NewRow) (db : Database) : Except Failure Database := do
  let table ← db.table? r.table
  match r.values.find? fun (column, _) => !(table.columns.any (.plain ·.name = column)) with
  | some (column, _) => throw (.noColumn r.table column.shown)
  | none =>
    r.values.forM fun (_, value) => NewRow.encoded value
    return { db with store := ← r.insertInto db.store }

def select (name : String) (columns : List String) (db : Database) :
    Except Failure (List (List Json)) := do
  let table ← db.table? name
  match (columns ++ ["uuid"]).find? fun column => !(table.columns.any (·.name = column)) with
  | some column => throw (.unknownColumn column)
  | none =>
    let uuid (cells : Json.Members) : String :=
      match Json.get? cells "uuid" with
      | some (.text s) => s.shown
      | _ => ""
    let rows := sorted (fun a b => decide (uuid a ≤ uuid b)) (db.store.cells name)
    return rows.map fun cells => columns.map fun column => (Json.get? cells column).getD .null

def tables (db : Database) : List Table :=
  (if db.marked then [Table.version] else []) ++ Table.ofRevision db.revision

end Database

end AnalysisWebhooks
