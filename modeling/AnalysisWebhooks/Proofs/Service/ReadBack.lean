import AnalysisWebhooks.Proofs.Service.Effect
import AnalysisWebhooks.Proofs.Store.Chronology
import AnalysisWebhooks.Proofs.Store.Survivors

namespace AnalysisWebhooks

open Calendar

section Row

variable {uuid text : String} {d : Delivery}

def Delivery.shown (d : Delivery) (uuid : String) (payload : Option String) (createdAt : Moment) :
    DeliveryRow (Option String) Moment :=
  { d.row uuid "" with payload, createdAt }

end Row

namespace Store

variable {s : Store} {uuid text : String} {d : Delivery} {row : DeliveryRow String String}
  {project task : Option String} {limit : Int} {k : Nat}

section Lists

variable {shown : DeliveryRow (Option String) Moment}
  {before after : List (DeliveryRow (Option String) Moment)}

end Lists

end Store

def longText (n : Nat) : String :=
  String.ofList (List.replicate n 'x')

end AnalysisWebhooks
