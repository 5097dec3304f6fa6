namespace AnalysisWebhooks

inductive Cause where
  | missing
  | unexpected
  | notText
  | notUnicode
  | notBoolean
  | unreadableBoolean
  | notInteger
  | unreadableInteger
  | fractionalInteger
  | oversizedInteger
  | notFinite
  | notNumber
  | unreadableNumber
  | notOneOf (names : List String)
  | notSequence
  | notList
  | notMapping
  | notRecord (name : String)
  | notMoment
  | unreadableMoment
  | notPath
  | rule (text : String)
  | outOfYears
deriving DecidableEq, Repr

namespace Cause

def code : Cause → String
  | missing => "missing"
  | unexpected => "extra_forbidden"
  | notText => "string_type"
  | notUnicode => "string_unicode"
  | notBoolean => "bool_type"
  | unreadableBoolean => "bool_parsing"
  | notInteger => "int_type"
  | unreadableInteger => "int_parsing"
  | fractionalInteger => "int_from_float"
  | oversizedInteger => "int_parsing_size"
  | notFinite => "finite_number"
  | notNumber => "float_type"
  | unreadableNumber => "float_parsing"
  | notOneOf _ => "enum"
  | notSequence => "tuple_type"
  | notList => "list_type"
  | notMapping => "dict_type"
  | notRecord _ => "model_type"
  | notMoment => "datetime_type"
  | unreadableMoment => "datetime_invalid"
  | notPath => "path_type"
  | rule _ => "value_error"
  | outOfYears => "value_error"

def alternatives : List String → String
  | [] => ""
  | [a] => "'" ++ a ++ "'"
  | [a, b] => "'" ++ a ++ "' or '" ++ b ++ "'"
  | a :: rest => "'" ++ a ++ "', " ++ alternatives rest

def message? : Cause → Option String
  | missing => some "Field required"
  | unexpected => some "Extra inputs are not permitted"
  | notText => some "Input should be a valid string"
  | notUnicode =>
    some "Input should be a valid string, unable to parse raw data as a unicode string"
  | notBoolean => some "Input should be a valid boolean"
  | unreadableBoolean => some "Input should be a valid boolean, unable to interpret input"
  | notInteger => some "Input should be a valid integer"
  | unreadableInteger =>
      some "Input should be a valid integer, unable to parse string as an integer"
  | fractionalInteger => some "Input should be a valid integer, got a number with a fractional part"
  | oversizedInteger => some "Unable to parse input string as an integer, exceeded maximum size"
  | notFinite => some "Input should be a finite number"
  | notNumber => some "Input should be a valid number"
  | unreadableNumber => some "Input should be a valid number, unable to parse string as a number"
  | notOneOf names => some ("Input should be " ++ alternatives names)
  | notSequence => some "Input should be a valid tuple"
  | notList => some "Input should be a valid list"
  | notMapping => some "Input should be a valid dictionary"
  | notRecord name => some ("Input should be a valid dictionary or instance of " ++ name)
  | notMoment => some "Input should be a valid datetime"
  | unreadableMoment => none
  | notPath => some "Input is not a valid path for <class 'pathlib.Path'>"
  | rule text => some ("Value error, " ++ text)
  | outOfYears => some "date value out of range"

example : alternatives ["OK", "WARN", "ERROR"] = "'OK', 'WARN' or 'ERROR'" := by decide

end Cause

inductive Step where
  | key (name : String)
  | index (place : Nat)
deriving DecidableEq, Repr

structure Fault where
  path : List Step
  cause : Cause
deriving DecidableEq, Repr

inductive Check (α : Type) where
  | ok (value : α)
  | bad (faults : List Fault)
deriving Repr

namespace Check

variable {α β : Type}

def fail (cause : Cause) : Check α :=
  bad [⟨[], cause⟩]

def map (f : α → β) : Check α → Check β
  | ok a => ok (f a)
  | bad faults => bad faults

def seq (f : Check (α → β)) (x : Unit → Check α) : Check β :=
  match f, x () with
  | ok f, ok a => ok (f a)
  | ok _, bad faults => bad faults
  | bad faults, ok _ => bad faults
  | bad faults, bad more => bad (faults ++ more)

instance : Applicative Check where
  pure := ok
  map := map
  seq := seq

def andThen (c : Check α) (f : α → Check β) : Check β :=
  match c with
  | ok a => f a
  | bad faults => bad faults

def withFaults (c : Check α) (more : List Fault) : Check α :=
  match c, more with
  | ok a, [] => ok a
  | ok _, more => bad more
  | bad faults, more => bad (faults ++ more)

def within (step : Step) : Check α → Check α
  | ok a => ok a
  | bad faults => bad (faults.map fun f => { f with path := step :: f.path })

theorem map_eq_ok {f : α → β} {c : Check α} {b : β} :
    f <$> c = ok b ↔ ∃ a, c = ok a ∧ f a = b := by
  cases c <;> simp [Functor.map, map]

theorem seq_eq_ok {f : Check (α → β)} {x : Check α} {b : β} :
    f <*> x = ok b ↔ ∃ g a, f = ok g ∧ x = ok a ∧ g a = b := by
  cases f <;> cases x <;> simp [Seq.seq, seq]

theorem within_eq_ok {step : Step} {c : Check α} {a : α} : c.within step = ok a ↔ c = ok a := by
  cases c <;> simp [within]

theorem andThen_eq_ok {c : Check α} {f : α → Check β} {b : β} :
    c.andThen f = ok b ↔ ∃ a, c = ok a ∧ f a = ok b := by
  cases c <;> simp [andThen]

theorem withFaults_eq_ok {c : Check α} {more : List Fault} {a : α} :
    c.withFaults more = ok a ↔ c = ok a ∧ more = [] := by
  cases c <;> cases more <;> simp [withFaults]

end Check

end AnalysisWebhooks
