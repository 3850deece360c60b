import ConfigKeeper.Console.Markup
import ConfigKeeper.Console.Wrap

namespace ConfigKeeper.Console

open Text

def frameCells : Nat := 4

def titleText (s : List Char) : List Char :=
  let line := s.map fun c => if c = '\n' then ' ' else c
  ' ' :: (if line.contains '\t' then expandTabs line else line) ++ [' ']

def rule (n : Nat) : List Char := List.replicate n '─'

def titleLine (width : Nat) (title : List Char) : List Char :=
  let room := width - frameCells
  let shown := truncated room (titleText title)
  let spare := room - cells shown
  let filled := rule (spare / 2) ++ shown ++ rule (spare - spare / 2)
  padded room (truncated room (dropExcess room filled))

def topEdge (width : Nat) (title : List Char) : List Char :=
  if width ≤ frameCells then '╭' :: rule (width - 2) ++ ['╮']
  else '╭' :: '─' :: titleLine width title ++ ['─', '╮']

def bottomEdge (width : Nat) : List Char := '╰' :: rule (width - 2) ++ ['╯']

def bodyRow (width : Nat) (line : List Char) : List Char :=
  '│' :: ' ' :: padded (width - frameCells) line ++ [' ', '│']

def panel (width : Nat) (title : List Char) (body : List (List Char)) : List (List Char) :=
  topEdge width title :: (body.flatMap (wrap (width - frameCells))).map (bodyRow width) ++
    [bottomEdge width]

end ConfigKeeper.Console
