import AnalysisWebhooks.Settings

namespace AnalysisWebhooks

def nameOfLevel (level : Int) : String :=
  match levelNames.find? fun entry => (entry.2 : Int) = level with
  | some (name, _) => name
  | none => "Level " ++ toString level

structure LogRecord where
  logger : String
  level : Int
  template : String
  arguments : List String
deriving DecidableEq, Repr

namespace LogRecord

def filled : List Char → List String → List Char
  | '%' :: '%' :: rest, arguments => '%' :: filled rest arguments
  | '%' :: c :: rest, argument :: arguments =>
    if c = 's' ∨ c = 'd' ∨ c = 'i' then argument.toList ++ filled rest arguments
    else '%' :: c :: filled rest (argument :: arguments)
  | c :: rest, arguments => c :: filled rest arguments
  | [], _ => []

def message (r : LogRecord) : String :=
  if r.arguments.isEmpty then r.template
  else String.ofList (filled r.template.toList r.arguments)

end LogRecord

structure AlertChannel where
  level : Nat
  token : String
  chat : String
  server : String
deriving DecidableEq, Repr

namespace AlertChannel

def ofSettings? (s : Settings) : Option AlertChannel :=
  match s.telegramToken, s.telegramChat with
  | some token, some chat => some ⟨s.alertLevel, token, chat, s.serverUrl⟩
  | _, _ => none

def text (c : AlertChannel) (r : LogRecord) : String :=
  "[" ++ c.server ++ "] " ++ nameOfLevel r.level ++ " " ++ r.logger ++ ": " ++ r.message

end AlertChannel

end AnalysisWebhooks
