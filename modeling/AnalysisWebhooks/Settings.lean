import AnalysisWebhooks.Check.Record
import AnalysisWebhooks.Check.Scalar
import AnalysisWebhooks.Text.FilePath

namespace AnalysisWebhooks

open Check

def levelNames : List (String × Nat) :=
  [("CRITICAL", 50), ("ERROR", 40), ("WARNING", 30), ("INFO", 20), ("DEBUG", 10), ("NOTSET", 0)]

def levelAliases : List (String × Nat) :=
  [("FATAL", 50), ("WARN", 30)]

def warningLevel : Nat := 30

def upperLetter (c : Char) : Char :=
  if c = 'ı' then 'I' else if c = 'ſ' then 'S' else c.toUpper

def levelOfName (name : String) : Nat :=
  ((levelNames ++ levelAliases).lookup (String.ofList (name.toList.map upperLetter))).getD
    warningLevel

structure Settings where
  serverUrl : String := "http://localhost:9000"
  databasePath : String := "data/qualityhook.sqlite3"
  webhooksEnabled : Bool := true
  timeoutSeconds : Float := 10
  retentionCount : Int := 10
  logLevelName : String := "WARNING"
  alertLevelName : String := "WARNING"
  telegramToken : Option String := none
  telegramChat : Option String := none
  host : String := "0.0.0.0"
  port : Int := 8080
deriving Repr

namespace Settings

def logLevel (s : Settings) : Nat :=
  levelOfName s.logLevelName

def alertLevel (s : Settings) : Nat :=
  levelOfName s.alertLevelName

def readServerUrl (j : Json) : Check String :=
  Text.dropEnd '/' <$> plainText j

def readPath : Json → Check String
  | .text (.plain s) => ok (Text.plainPath s)
  | _ => fail .notPath

def readRetention (j : Json) : Check Int :=
  (integer j).andThen fun n =>
    if n < 1 then fail (.rule "Retention count must be at least 1") else ok n

def ofMembers (m : Json.Members) : Check Settings :=
  let initial : Settings := {}
  Settings.mk <$> optional (.word "SERVER_BASE_URL") initial.serverUrl readServerUrl m
    <*> optional (.word "DB_PATH") initial.databasePath readPath m
    <*> optional (.word "WEBHOOKS_ENABLED") initial.webhooksEnabled boolean m
    <*> optional (.word "WEBHOOK_TIMEOUT_SECONDS") initial.timeoutSeconds number m
    <*> optional (.word "WEBHOOK_DELIVERY_RETENTION_COUNT") initial.retentionCount readRetention m
    <*> optional (.word "OVERRIDE_LOGGING") initial.logLevelName plainText m
    <*> optional (.word "ALERT_LOG_LEVEL") initial.alertLevelName plainText m
    <*> maybe (.word "TELEGRAM_TOKEN") plainText m
    <*> maybe (.word "TELEGRAM_CHAT_ID") plainText m
    <*> optional (.word "HOST") initial.host plainText m
    <*> optional (.word "PORT") initial.port integer m

def names : List String :=
  ["SERVER_BASE_URL", "DB_PATH", "WEBHOOKS_ENABLED", "WEBHOOK_TIMEOUT_SECONDS",
    "WEBHOOK_DELIVERY_RETENTION_COUNT", "OVERRIDE_LOGGING", "ALERT_LOG_LEVEL", "TELEGRAM_TOKEN",
    "TELEGRAM_CHAT_ID", "HOST", "PORT"]

def read (values : Json.Members) (environment : List (String × String)) : Check Settings :=
  ofMembers (values ++ environment.map fun (name, value) => (.plain name, .text value))

end Settings

end AnalysisWebhooks
