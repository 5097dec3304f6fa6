import AnalysisWebhooks.Calendar.Writing
import AnalysisWebhooks.Command.Basic
import AnalysisWebhooks.Schema.Database
import AnalysisWebhooks.Settings
import AnalysisWebhooks.Store.Deliveries
import AnalysisWebhooks.Text.Grid

namespace AnalysisWebhooks

open Calendar

inductive CommandFault where
  | usage (fault : UsageFault)
  | revision (fault : RevisionFault)
  | failed (failure : Failure)
deriving DecidableEq, Repr

def CommandFault.message : CommandFault → String
  | usage fault => fault.message
  | revision fault => fault.message
  | failed failure => failure.message

namespace Command

def tableHeaders : List String :=
  ["id", "name", "url", "task", "status", "ms", "success", "at"]

def tableRow (row : DeliveryRow (Option String) Moment) : List String :=
  let number (n : Option Int) := (n.map toString).getD ""
  [row.uuid, row.name, row.url, row.task.getD "", number row.httpStatus, number row.durationMs,
    if row.success then "yes" else "no", row.createdAt.isoText]

def current (db : Database) : Database :=
  db.upgradedTo (some .head)

def run (settings : Settings) (db : Database) :
    Command → Except CommandFault String × Database
  | migrate text =>
    match db.upgrade text with
    | (.ok (), after) =>
      (.ok (settings.databasePath ++ " is at revision " ++
        (after.revision.map Revision.id).getD "None" ++ "\n"), after)
    | (.error fault, after) => (.error (.revision fault), after)
  | deliveries none none _ =>
    (.error (.usage (.badValue "Either --project or --task must be given")), db)
  | deliveries project task limit =>
    let db := current db
    match db.store.listDeliveries project task limit with
    | .ok rows => (.ok (Text.Grid.render tableHeaders (rows.map tableRow) ++ "\n"), db)
    | .error failure => (.error (.failed failure), db)
  | purge project =>
    let db := current db
    match db.store.trimmed project settings.retentionCount with
    | .ok (removed, store) =>
      (.ok ("Deleted " ++ toString removed ++ " delivery record(s) of project " ++ project ++ "\n"),
        { db with store })
    | .error failure => (.error (.failed failure), db)

def runArguments (settings : Settings) (db : Database) (arguments : List String) :
    Except CommandFault String × Database :=
  match ofArguments arguments with
  | .ok command => command.run settings db
  | .error fault => (.error (.usage fault), db)

end Command

end AnalysisWebhooks
