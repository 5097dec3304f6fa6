import AnalysisWebhooks.Text.Blank

namespace AnalysisWebhooks.Text

def pathRoot (s : List Char) : List Char :=
  match (s.takeWhile (· == '/')).length with
  | 0 => []
  | 2 => ['/', '/']
  | _ => ['/']

def pathParts (s : List Char) : List (List Char) :=
  (pieces '/' s).filter fun part => part ≠ [] && part ≠ ['.']

def plainPath (s : String) : String :=
  let chars := pathRoot s.toList ++ joined '/' (pathParts s.toList)
  if chars.isEmpty then "." else String.ofList chars

def parentPath (s : String) : String :=
  plainPath (String.ofList (pathRoot s.toList ++ joined '/' (pathParts s.toList).dropLast))

example : parentPath "data/a.json" = "data" := by decide +kernel
example : plainPath "a//b/./c" = "a/b/c" := by decide +kernel
example : plainPath "" = "." := by decide +kernel

end AnalysisWebhooks.Text
