import ConfigKeeper.Text.Blank
import ConfigKeeper.Text.CellWidth
import ConfigKeeper.Text.Split

/-!
Laying out a text in lines of a given number of cells. Words move to the next line where they do not
fit; a word that is too wide for any line is folded.
-/

namespace ConfigKeeper.Console

open Text

def tabStop : Nat := 8

def expandTabsAux : Nat → List Char → List (List Char) → List Char
  | _, done, [] => done
  | _, done, [last] => done ++ last
  | position, done, part :: parts =>
    let reached := position + cells (part ++ [' '])
    let fill := (tabStop - reached % tabStop) % tabStop
    expandTabsAux (reached + fill) (done ++ part ++ List.replicate (fill + 1) ' ') parts

def expandTabs (s : List Char) : List Char := expandTabsAux 0 [] (splitAt '\t' s)

def cutWord (s : List Char) : List Char × List Char :=
  let front := s.takeWhile isBlank
  let body := (s.drop front.length).takeWhile fun c => !isBlank c
  let back := (s.drop (front.length + body.length)).takeWhile isBlank
  (front ++ body ++ back, s.drop (front.length + body.length + back.length))

def wordsAux : Nat → List Char → List (List Char)
  | 0, _ => []
  | fuel + 1, s =>
    if s.all isBlank then []
    else
      let (word, rest) := cutWord s
      word :: wordsAux fuel rest

def words (s : List Char) : List (List Char) := wordsAux s.length s

def foldClusters (width : Nat) : Nat → List Char → List Cluster → List (List Char)
  | size, line, [] => if size = 0 then [] else [line]
  | size, line, k :: ks =>
    if width < size + k.cells then line :: foldClusters width k.cells k.chars ks
    else foldClusters width (size + k.cells) (line ++ k.chars) ks

def folded (width : Nat) (word : List Char) : List (List Char) :=
  foldClusters width 0 [] (clusters word)

/-- Lines in the making: finished ones in reverse order, the one at hand with its cells, and how
many characters stand before the next word. -/
structure Filling where
  done : List (List Char)
  line : List Char
  width : Nat
  start : Nat

namespace Filling

def break_ (f : Filling) : Filling :=
  if f.start = 0 then f else { f with done := f.line :: f.done, line := [] }

def put (f : Filling) (piece : List Char) : Filling :=
  { f with line := f.line ++ piece, start := f.start + piece.length }

def putPieces (f : Filling) : List (List Char) → Filling
  | [] => f
  | [last] => { f.break_.put last with width := cells last }
  | piece :: rest => putPieces (f.break_.put piece) rest

def addWord (width : Nat) (f : Filling) (word : List Char) : Filling :=
  let size := cells (trimEnd word)
  if f.width + size ≤ width then { f.put word with width := f.width + cells word }
  else if width < size then f.putPieces (folded width word)
  else if f.width != 0 && f.start != 0 then { f.break_.put word with width := cells word }
  else f.put word

def lines (f : Filling) : List (List Char) := (f.line :: f.done).reverse

end Filling

def divided (width : Nat) (s : List Char) : List (List Char) :=
  if s.all isBlank then [s]
  else ((words s).foldl (Filling.addWord width) ⟨[], [], 0, 0⟩).lines

def dropExcess (width : Nat) (s : List Char) : List Char :=
  let blanks := (s.reverse.takeWhile isBlank).length
  s.take (s.length - min blanks (s.length - width))

def fitClusters : Nat → List Cluster → List Char
  | 0, _ => []
  | _, [] => []
  | room + 1, k :: ks =>
    if k.cells ≤ room + 1 then k.chars ++ fitClusters (room + 1 - k.cells) ks else [' ']

def truncated (width : Nat) (s : List Char) : List Char :=
  if cells s ≤ width then s else fitClusters width (clusters s)

def wrapLine (width : Nat) (s : List Char) : List (List Char) :=
  let s := if s.contains '\t' then expandTabs s else s
  (divided width s).map fun l => truncated width (dropExcess width l)

def wrap (width : Nat) (s : List Char) : List (List Char) :=
  (splitAt '\n' s).flatMap (wrapLine width)

def padded (width : Nat) (s : List Char) : List Char := s ++ List.replicate (width - cells s) ' '

end ConfigKeeper.Console
