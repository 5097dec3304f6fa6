import AnalysisWebhooks.Decimal.Layout
import AnalysisWebhooks.Decimal.Reading

namespace AnalysisWebhooks.Text.Grid

open Decimal

inductive CellKind where
  | blank
  | flag
  | whole
  | decimal
  | words
deriving DecidableEq, Repr

def isWhole (s : String) : Bool :=
  let (digits, rest) := splitGrouped (splitSign (trimChars s.toList)).2
  !digits.isEmpty && rest.isEmpty && digits.length ≤ integerLength

def isNumber (s : String) : Bool :=
  match readFloat? s with
  | none => false
  | some x =>
    if x.isFinite then true
    else ["inf", "-inf", "nan"].contains (String.ofList (asciiLower s.toList))

namespace CellKind

def ofText (s : String) : CellKind :=
  if s.isEmpty then blank
  else if s = "True" ∨ s = "False" then flag
  else if isWhole s then whole
  else if isNumber s then decimal
  else words

def rank : CellKind → Nat
  | blank => 0
  | flag => 1
  | whole => 2
  | decimal => 3
  | words => 4

def join (a b : CellKind) : CellKind :=
  if a.rank < b.rank then b else a

def isNumeric : CellKind → Bool
  | whole => true
  | decimal => true
  | _ => false

end CellKind

def columnKind (cells : List String) : CellKind :=
  (cells.map CellKind.ofText).foldl CellKind.join .flag

def cellIn (kind : CellKind) (s : String) : String :=
  match kind, readFloat? s with
  | .decimal, some x => cellText x
  | _, _ => s

def tailLength (s : List Char) : Nat :=
  let text := String.ofList s
  if !isNumber text || isWhole text then 0
  else if s.contains '.' then (s.reverse.takeWhile (· ≠ '.')).length + 1
  else if s.contains 'e' then (s.reverse.takeWhile (· ≠ 'e')).length + 1
  else 0

def blanks (n : Nat) : List Char :=
  List.replicate n ' '

def padLeft (width : Nat) (s : List Char) : List Char :=
  blanks (width - s.length) ++ s

def padRight (width : Nat) (s : List Char) : List Char :=
  s ++ blanks (width - s.length)

abbrev Lines := List (List Char)

def linesOf : List Char → Lines
  | [] => []
  | '\r' :: '\n' :: rest => [] :: linesOf rest
  | c :: rest =>
    if c = '\n' ∨ c = '\r' then [] :: linesOf rest
    else
      match linesOf rest with
      | line :: more => (c :: line) :: more
      | [] => [[c]]

def maxLength (lines : Lines) : Nat :=
  (lines.map List.length).foldl max 0

structure Column where
  width : Nat
  header : List Char
  cells : List Lines
deriving Repr

def alignedCells (kind : CellKind) (cells : List (List Char)) : List (List Char) :=
  if kind.isNumeric then
    let tails := cells.map tailLength
    let longest := tails.foldl max 0
    cells.map fun cell => cell ++ blanks (longest - tailLength cell)
  else cells.map trimChars

def Column.layOut (header : String) (texts : List String) : Column :=
  let kind := columnKind texts
  let cells := (alignedCells kind (texts.map fun s => (cellIn kind s).toList)).map linesOf
  let width := (cells.map maxLength).foldl max (header.length + 2)
  let pad := if kind.isNumeric then padLeft width else padRight width
  ⟨width, pad header.toList, cells.map (·.map pad)⟩

def lineOf (cells : List (List Char)) : List Char :=
  trimEnd (List.intercalate [' ', ' '] cells)

def rowLines (columns : List Column) (row : Nat) : Lines :=
  let cells := columns.map fun c => (c.width, c.cells[row]?.getD [])
  let height := (cells.map (·.2.length)).foldl max 0
  (List.range height).map fun line =>
    lineOf (cells.map fun (width, lines) => lines[line]?.getD (blanks width))

def render (headers : List String) (rows : List (List String)) : String :=
  let columns := headers.zipIdx.map fun (header, i) =>
    Column.layOut header (rows.map fun row => row[i]?.getD "")
  let lines :=
    lineOf (columns.map (·.header)) ::
      lineOf (columns.map fun c => List.replicate c.width '-') ::
      (List.range rows.length).flatMap (rowLines columns)
  String.intercalate "\n" (lines.map String.ofList)

end AnalysisWebhooks.Text.Grid
