import AnalysisWebhooks.Schema.Row

namespace AnalysisWebhooks.Database

def tableNames : List String :=
  [Table.properties, Table.components, Table.branches, Table.snapshots, Table.activities,
    Table.deliveries].map (·.name)

def document (db : Database) : Json :=
  .object [("revision", .textOrNull (db.revision.map Revision.id)), ("marked", .bool db.marked),
    ("tables", .object (tableNames.map fun name =>
      (.plain name, .array ((db.store.cells name).map .object))))]

def insertRows (table : String) (s : Store) : List Json → Except Failure Store
  | [] => .ok s
  | .object values :: rest => do insertRows table (← NewRow.insertInto ⟨table, values⟩ s) rest
  | _ :: _ => .error (.noTable table)

def insertTables (s : Store) : Json.Members → Except Failure Store
  | [] => .ok s
  | (table, .array rows) :: rest => do insertTables (← insertRows table.shown s rows) rest
  | (table, _) :: _ => .error (.noTable table.shown)

def ofDocument? : Json → Option Database
  | .object m =>
    match Json.get? m "revision", Json.get? m "marked", Json.get? m "tables" with
    | some revision, some (.bool marked), some (.object tables) =>
      let revision := match revision with
        | .text id => Revision.line.find? (·.id = id)
        | _ => none
      (insertTables {} tables).toOption.map fun store => { revision, marked, store }
    | _, _, _ => none
  | _ => none

end AnalysisWebhooks.Database
