import ConfigKeeper.Diff.Alignment
import ConfigKeeper.Diff.Line
import ConfigKeeper.Text.Lines

/-!
The edit script between two texts, line by line, and its hunks: the changed lines with some
unchanged ones around them.
-/

namespace ConfigKeeper.Diff

def changedRanges : Int → Int → List (Segment Char) → List Range × List Range
  | _, _, [] => ([], [])
  | i, j, s :: rest =>
    let (i', j') := (i + s.old.length, j + s.new.length)
    let (olds, news) := changedRanges i' j' rest
    if s.isChanged then ((i, i') :: olds, (j, j') :: news) else (olds, news)

def inlineEmphasis (old new : List Char) : List Range × List Range :=
  let (olds, news) := changedRanges 0 0 (align old new)
  (mergeRanges olds, mergeRanges news)

structure Stretch where
  isChanged : Bool
  lines : List Line
deriving DecidableEq, Repr

def keptLines (i j : Nat) (items : List (List Char)) : List Line :=
  items.zipIdx.map fun (s, n) => ⟨.equal, some (i + n : Nat), some (j + n : Nat), s, []⟩

def deletedLines (i : Nat) (items : List (List Char)) (emphasis : List (List Range)) : List Line :=
  items.zipIdx.map fun (s, n) => ⟨.delete, some (i + n : Nat), none, s, emphasis[n]?.getD []⟩

def insertedLines (j : Nat) (items : List (List Char)) (emphasis : List (List Range)) : List Line :=
  items.zipIdx.map fun (s, n) => ⟨.insert, none, some (j + n : Nat), s, emphasis[n]?.getD []⟩

/-- The lines of a segment; in a changed one the removed lines come first, and lines at the same
place are compared for emphasis. -/
def stretchOf (i j : Nat) : Segment (List Char) → Stretch
  | .kept items => ⟨false, keptLines i j items⟩
  | .changed old new =>
    let emphasis := List.zipWith inlineEmphasis old new
    ⟨true, deletedLines i old (emphasis.map Prod.fst) ++
      insertedLines j new (emphasis.map Prod.snd)⟩

def stretchesFrom : Nat → Nat → List (Segment (List Char)) → List Stretch
  | _, _, [] => []
  | i, j, s :: rest => stretchOf i j s :: stretchesFrom (i + s.old.length) (j + s.new.length) rest

def segmentsOf (old new : List Char) : List (Segment (List Char)) :=
  align (Text.lines old) (Text.lines new)

def stretches (old new : List Char) : List Stretch := stretchesFrom 0 0 (segmentsOf old new)

def script (old new : List Char) : List Line := (stretches old new).flatMap Stretch.lines

def hasChanges (lines : List Line) : Bool := lines.any fun l => l.tag != .equal

def hasDiff (old new : List Char) : Bool := (segmentsOf old new).any Segment.isChanged

def oldText (lines : List Line) : List Char :=
  (lines.filter fun l => l.tag != .insert).flatMap Line.value

def newText (lines : List Line) : List Char :=
  (lines.filter fun l => l.tag != .delete).flatMap Line.value

def lastOf (n : Nat) (lines : List Line) : List Line := lines.drop (lines.length - n)

def trimFirst (n : Nat) : List Stretch → List Stretch
  | ⟨false, lines⟩ :: rest => ⟨false, lastOf n lines⟩ :: rest
  | ss => ss

def trimLast (n : Nat) : List Stretch → List Stretch
  | [] => []
  | [⟨false, lines⟩] => [⟨false, lines.take n⟩]
  | s :: rest => s :: trimLast n rest

def cut (n : Nat) : List Line → List Stretch → List (List Line)
  | hunk, [] => [hunk]
  | hunk, s :: rest =>
    if !s.isChanged && 2 * n < s.lines.length then
      (hunk ++ s.lines.take n) :: cut n (lastOf n s.lines) rest
    else cut n (hunk ++ s.lines) rest

def hunks (old new : List Char) (n : Nat) : List (List Line) :=
  let ss := stretches old new
  if ss.any Stretch.isChanged then cut n [] (trimLast n (trimFirst n ss)) else []

end ConfigKeeper.Diff
