import AnalysisWebhooks.Alert
import AnalysisWebhooks.Main
import AnalysisWebhooks.Proofs.Schema.Backfill
import AnalysisWebhooks.Proofs.Schema.Upgrades
import AnalysisWebhooks.Proofs.Service.Effect
import AnalysisWebhooks.Proofs.Service.Pruning
import AnalysisWebhooks.Proofs.Service.ReadBack
import AnalysisWebhooks.Proofs.Service.Refusing
import AnalysisWebhooks.Proofs.Store.Chronology
import AnalysisWebhooks.Proofs.Store.Survivors
import AnalysisWebhooks.Proofs.Web.Consistency
import AnalysisWebhooks.Proofs.Web.Gates
import AnalysisWebhooks.Proofs.Web.LastAnalyses
import AnalysisWebhooks.Proofs.Web.LastTasks
import AnalysisWebhooks.Proofs.Web.Links
import AnalysisWebhooks.Proofs.Web.ListSettings
import AnalysisWebhooks.Proofs.Web.Metrics
import AnalysisWebhooks.Proofs.Web.Secrets
import AnalysisWebhooks.Proofs.Web.Silencing
import AnalysisWebhooks.Proofs.Webhook.Bodies
import AnalysisWebhooks.Proofs.Webhook.Dates
import AnalysisWebhooks.Proofs.Webhook.Links
import AnalysisWebhooks.Web.Handler
import AnalysisWebhooks.Webhook.Document
