import AnalysisWebhooks.Text.Raw

namespace AnalysisWebhooks

inductive Json where
  | null
  | bool (value : Bool)
  | int (value : Int)
  | real (value : Float)
  | text (value : RawText)
  | array (items : List Json)
  | object (members : List (RawText × Json))
deriving Inhabited, Repr

namespace Json

abbrev Members := List (RawText × Json)

def get? (members : Members) (key : String) : Option Json :=
  members.lookup (.plain key)

def put {κ α : Type} [DecidableEq κ] (entries : List (κ × α)) (key : κ) (value : α) :
    List (κ × α) :=
  match entries with
  | [] => [(key, value)]
  | e :: rest => if e.1 = key then (key, value) :: rest else e :: put rest key value

mutual

def merged : Json → Json
  | array items => array (mergedItems items)
  | object members => object (mergedMembers [] members)
  | j => j

def mergedItems : List Json → List Json
  | [] => []
  | j :: rest => merged j :: mergedItems rest

def mergedMembers (seen : Members) : Members → Members
  | [] => seen
  | (key, j) :: rest => mergedMembers (put seen key (merged j)) rest

end

end Json

end AnalysisWebhooks
