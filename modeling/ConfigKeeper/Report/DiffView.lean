import ConfigKeeper.Console.StyledText
import ConfigKeeper.Console.Wrap
import ConfigKeeper.Diff.Script

namespace ConfigKeeper.Report

open Console Diff

def numberWidth : Nat := 4

def spaces (n : Nat) : List Char := List.replicate n ' '

def lineNumber : Option Int → List Char
  | none => spaces numberWidth
  | some i =>
    let digits := (toString (i + 1)).toList
    digits ++ spaces (numberWidth - digits.length)

def sign : Tag → List Char
  | .delete => ['-']
  | .insert => ['+']
  | .equal => [' ']

def tagStyle : Tag → String
  | .delete => "red"
  | .insert => "green"
  | .equal => "dim"

def noNewlineNote : List Char := "\n\\ No newline at end of file".toList

def lineHead (l : Line) : StyledText :=
  ((((StyledText.empty.append (lineNumber l.oldIndex) "dim").append [' '] "").append
    (lineNumber l.newIndex) "dim").append " |".toList "dim").append (sign l.tag)
      ("bold " ++ tagStyle l.tag)

def appendPiece (style : String) (t : StyledText) (p : Piece) : StyledText :=
  t.append p.text (if p.emphasized then style ++ " underline" else style)

def terminatorLength (value : List Char) : Nat := (value.reverse.takeWhile Line.endsLine).length

def formatLine (l : Line) : StyledText :=
  let text := l.pieces.foldl (appendPiece (tagStyle l.tag)) (lineHead l)
  let n := terminatorLength l.value
  if n != 0 then text.cropEnd n
  else if l.tag != .equal then text.append noNewlineNote "dim"
  else text

def divider : List Char := List.replicate 80 '-'

def hunkLines (width : Nat) (hunk : List Line) : List (List Char) :=
  hunk.flatMap fun l => wrap width (formatLine l).plain

def renderDiff (width : Nat) (old new title : List Char) (context : Nat) : List (List Char) :=
  wrap width (sanitized title) ++
    (((hunks old new context).map (hunkLines width)).intersperse
      (wrap width divider)).flatten ++ [[]]

end ConfigKeeper.Report
