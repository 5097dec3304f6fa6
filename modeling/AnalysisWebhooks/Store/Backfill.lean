import AnalysisWebhooks.Store.Basic

namespace AnalysisWebhooks.Store

def analysisOfTask (s : Store) (task : String) : Option String :=
  (s.activities.find? (·.uuid = task)).bind (·.analysis)

def resolved (s : Store) (row : DeliveryRow String String) : DeliveryRow String String :=
  match row.analysis with
  | some _ => row
  | none => { row with analysis := row.task.bind s.analysisOfTask }

def backfilled (s : Store) : Store :=
  { s with deliveries := (s.deliveries.map s.resolved).filter (·.analysis.isSome) }

end AnalysisWebhooks.Store
