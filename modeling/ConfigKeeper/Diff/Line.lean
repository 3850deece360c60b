import ConfigKeeper.Diff.Ranges
import ConfigKeeper.Text.Slice

namespace ConfigKeeper.Diff

inductive Tag
  | equal
  | insert
  | delete
deriving DecidableEq, Repr

/-- A line with its index on each side where it exists, and the ranges of it that differ from the
line it replaces. -/
structure Line where
  tag : Tag
  oldIndex : Option Int
  newIndex : Option Int
  value : List Char
  emphasis : List Range
deriving DecidableEq, Repr

structure Piece where
  emphasized : Bool
  text : List Char
deriving DecidableEq, Repr

namespace Line

def endsLine (c : Char) : Bool := c = '\n' || c = '\r'

def missingNewline (l : Line) : Bool :=
  match l.value.getLast? with
  | some c => !endsLine c
  | none => true

def piecesFrom (value : List Char) : Int → List Range → List Piece
  | position, [] =>
    if position < value.length then [⟨false, Text.slice value position value.length⟩] else []
  | position, (start, stop) :: rest =>
    let plain := if position < start then [⟨false, Text.slice value position start⟩] else []
    plain ++ ⟨true, Text.slice value start stop⟩ :: piecesFrom value stop rest

def pieces (l : Line) : List Piece := piecesFrom l.value 0 l.emphasis

end Line

end ConfigKeeper.Diff
