import AnalysisWebhooks.Check.Basic
import AnalysisWebhooks.Json.Basic

namespace AnalysisWebhooks

structure Key where
  camel : String
  snake : String
deriving DecidableEq, Repr

namespace Key

def word (name : String) : Key :=
  ⟨name, name⟩

def find? (k : Key) (members : Json.Members) : Option (String × Json) :=
  match Json.get? members k.camel with
  | some j => some (k.camel, j)
  | none => (Json.get? members k.snake).map fun j => (k.snake, j)

end Key

namespace Check

variable {α : Type}

def required (k : Key) (read : Json → Check α) (members : Json.Members) : Check α :=
  match k.find? members with
  | some (name, j) => (read j).within (.key name)
  | none => bad [⟨[.key k.camel], .missing⟩]

def optional (k : Key) (fallback : α) (read : Json → Check α) (members : Json.Members) : Check α :=
  match k.find? members with
  | some (name, j) => (read j).within (.key name)
  | none => ok fallback

def maybe (k : Key) (read : Json → Check α) : Json.Members → Check (Option α) :=
  optional k none fun
    | .null => ok none
    | j => some <$> read j

def unexpected (keys : List Key) (members : Json.Members) : List Fault :=
  let used := keys.filterMap fun k => (k.find? members).map (·.1)
  let others := (members.filterMap (·.1.plain?)).filter fun name => !used.contains name
  others.map fun name => ⟨[.key name], .unexpected⟩

-- A name that is no Unicode text ends the check: the faults found so far are lost.
def closed (keys : List Key) (read : Json.Members → Check α) (members : Json.Members) : Check α :=
  if members.all (·.1.isUnicode) then (read members).withFaults (unexpected keys members)
  else fail .notUnicode

def record (name : String) (read : Json.Members → Check α) : Json → Check α
  | .object members => read members
  | _ => fail (.notRecord name)

def items (read : Json → Check α) : (place : Nat) → List Json → Check (List α)
  | _, [] => ok []
  | place, j :: rest => List.cons <$> (read j).within (.index place) <*> items read (place + 1) rest

def sequence (read : Json → Check α) : Json → Check (List α)
  | .array js => items read 0 js
  | _ => fail .notSequence

def list (read : Json → Check α) : Json → Check (List α)
  | .array js => items read 0 js
  | _ => fail .notList

def values (read : Json → Check α) : Json.Members → Check (List (RawText × α))
  | [] => ok []
  | (key, j) :: rest =>
    (fun a more => (key, a) :: more) <$> (read j).within (.key key.shown) <*> values read rest

def mapping (read : Json → Check α) : Json → Check (List (RawText × α))
  | .object members => values read members
  | _ => fail .notMapping

end Check

end AnalysisWebhooks
