import AnalysisWebhooks.Schema.Revision
import AnalysisWebhooks.Service.Basic
import AnalysisWebhooks.Store.Backfill

namespace AnalysisWebhooks

structure Database where
  revision : Option Revision := none
  marked : Bool := false
  store : Store := {}
deriving DecidableEq, Repr

namespace Database

def withoutAnalyses (s : Store) : Store :=
  { s with deliveries := s.deliveries.map fun row => { row with analysis := none } }

def stepUp : Revision → Store → Store
  | .initial, _ => {}
  | .analysisColumn, s => withoutAnalyses s
  | .analysisFilled, s => s.backfilled

def stepDown : Revision → Store → Store
  | .initial, _ => {}
  | .analysisColumn, s => withoutAnalyses s
  | .analysisFilled, s => s

def upgradedTo (target : Option Revision) (db : Database) : Database :=
  let steps := Revision.between db.revision target
  { revision := steps.getLast?.or db.revision
    marked := true
    store := steps.foldl (fun store step => stepUp step store) db.store }

def downgradedTo (target : Option Revision) (db : Database) : Database :=
  let steps := Revision.between target db.revision
  { revision := target
    marked := true
    store := steps.reverse.foldl (fun store step => stepDown step store) db.store }

def upgrade (text : String) (db : Database) : Except RevisionFault Unit × Database :=
  match Revision.upgradeTarget db.revision text with
  | .ok target => (.ok (), db.upgradedTo target)
  | .error fault => (.error fault, { db with marked := true })

def downgrade (text : String) (db : Database) : Except RevisionFault Unit × Database :=
  match Revision.downgradeTarget db.revision text with
  | .ok target => (.ok (), db.downgradedTo target)
  | .error fault => (.error fault, { db with marked := true })

def upgradeLine (name : String) (before after : Option Revision) : LogLine :=
  let text (r : Option Revision) := (r.map Revision.id).getD "None"
  if before = after then ⟨.debug, "Database " ++ name ++ " already at revision " ++ text after⟩
  else ⟨.info, "Database " ++ name ++ " migrated from " ++ text before ++ " to " ++ text after⟩

def backfill (db : Database) : Except Failure (Nat × Database) :=
  match db.revision with
  | none => .error (.noTable "webhook_deliveries")
  | some .initial => .error (.unknownColumn "analysis_uuid")
  | some _ =>
    let filled := db.store.backfilled
    .ok (db.store.deliveries.length - filled.deliveries.length, { db with store := filled })

end Database

end AnalysisWebhooks
