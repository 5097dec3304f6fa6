import AnalysisWebhooks.Check.Scalar

namespace AnalysisWebhooks

inductive Command where
  | migrate (revision : String)
  | deliveries (project task : Option String) (limit : Int)
  | purge (project : String)
deriving DecidableEq, Repr

inductive UsageFault where
  | misuse
  | missingArgument
  | unknownOption
  | optionWithoutValue (name : String)
  | badValue (message : String)
deriving DecidableEq, Repr

def UsageFault.message : UsageFault → String
  | misuse => ""
  | missingArgument => ""
  | unknownOption => ""
  | optionWithoutValue name => "Option '" ++ name ++ "' requires an argument."
  | badValue message => message

structure Arguments where
  options : List (String × String)
  others : List String
deriving DecidableEq, Repr

namespace Arguments

def isOption (argument : String) : Bool :=
  match argument.toList with
  | '-' :: _ :: _ => true
  | _ => false

def splitOption (argument : String) : String × Option String :=
  let name := argument.toList.takeWhile (· ≠ '=')
  match argument.toList.drop name.length with
  | [] => (argument, none)
  | _ :: value => (String.ofList name, some (String.ofList value))

def withOption (name value : String) (rest : Arguments) : Arguments :=
  { rest with options := (name, value) :: rest.options }

def withOther (argument : String) (rest : Arguments) : Arguments :=
  { rest with others := argument :: rest.others }

def read (names : List String) : List String → Except UsageFault Arguments
  | [] => .ok ⟨[], []⟩
  | argument :: rest =>
    if argument = "--" then .ok ⟨[], rest⟩
    else if isOption argument then
      let (name, value?) := splitOption argument
      if names.contains name then
        match value?, rest with
        | some value, rest => withOption name value <$> read names rest
        | none, value :: rest => withOption name value <$> read names rest
        | none, [] => .error (.optionWithoutValue name)
      else .error .unknownOption
    else withOther argument <$> read names rest

def option? (a : Arguments) (name : String) : Option String :=
  a.options.reverse.lookup name

end Arguments

namespace Command

def usualLimit : Int := 20

def readNumber (text : String) : Except UsageFault Int :=
  match Check.integer (.text text) with
  | .ok n => .ok n
  | .bad faults => .error (.badValue ((faults.head?.bind (·.cause.message?)).getD ""))

def readLimit (a : Arguments) : Except UsageFault Int :=
  match a.option? "--limit" with
  | some text => readNumber text
  | none => .ok usualLimit

def ofName (name : String) (arguments : List String) : Except UsageFault Command :=
  if name = "migrate" then do
    let a ← Arguments.read ["--revision"] arguments
    if a.others.isEmpty then return migrate ((a.option? "--revision").getD "head")
    else throw .misuse
  else if name = "deliveries" then do
    let a ← Arguments.read ["--project", "--task", "--limit"] arguments
    let limit ← readLimit a
    if a.others.isEmpty then return deliveries (a.option? "--project") (a.option? "--task") limit
    else throw .misuse
  else if name = "purge" then do
    let a ← Arguments.read [] arguments
    match a.others with
    | [] => throw .missingArgument
    | [project] => return purge project
    | _ => throw .misuse
  else .error .misuse

def ofArguments : List String → Except UsageFault Command
  | [] => .error .misuse
  | name :: arguments =>
    if Arguments.isOption name then .error .unknownOption else ofName name arguments

end Command

end AnalysisWebhooks
