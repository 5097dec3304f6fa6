namespace AnalysisWebhooks

variable {α : Type}

def placed (mayPrecede : α → α → Bool) (x : α) : List α → List α
  | [] => [x]
  | y :: rest => if mayPrecede x y then x :: y :: rest else y :: placed mayPrecede x rest

def sorted (mayPrecede : α → α → Bool) : List α → List α
  | [] => []
  | x :: rest => placed mayPrecede x (sorted mayPrecede rest)

end AnalysisWebhooks
