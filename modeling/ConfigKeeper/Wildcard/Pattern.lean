import ConfigKeeper.Text.Blank
import ConfigKeeper.Text.Split

/-!
Ignore patterns. A line is read into segments; a segment is `**`, a lone `*`, or a glob. A pattern
reaches a path either as the file itself or through a directory above it.
-/

namespace ConfigKeeper.Wildcard

inductive ClassItem
  | one (c : Char)
  | span (low high : Char)
deriving DecidableEq, Repr

inductive Piece
  | literal (c : Char)
  | anyChar
  | anyRun
  | oneOf (negated : Bool) (items : List ClassItem)
deriving DecidableEq, Repr

inductive Segment
  | directories
  | wholeName
  | glob (pieces : List Piece)
deriving DecidableEq, Repr

/-- `nested` reaches all that is not at the top; `path` tells by `below` whether only what lies
under the named directory counts. -/
inductive Shape
  | everything
  | nested
  | path (segments : List Segment) (below : Bool)
deriving DecidableEq, Repr

structure Pattern where
  negated : Bool
  shape : Shape
deriving DecidableEq, Repr

inductive PatternFault
  | empty
  | danglingEscape
  | backwardRange
deriving DecidableEq, Repr

def classBody : Bool → List Char → Option (List Char × List Char)
  | _, [] => none
  | first, c :: r =>
    if c = ']' && !first then some ([], r)
    else (classBody false r).map fun (body, rest) => (c :: body, rest)

def classItems : List Char → Except PatternFault (List ClassItem)
  | [] => .ok []
  | [c] => .ok [.one c]
  | [c, d] => .ok [.one c, .one d]
  | c :: '-' :: d :: r =>
    if d < c then .error .backwardRange else (.span c d :: ·) <$> classItems r
  | c :: r => (.one c :: ·) <$> classItems r

def globPieces : Nat → List Char → Except PatternFault (Option (List Piece))
  | _, [] => .ok (some [])
  | 0, _ => .ok none
  | fuel + 1, c :: r =>
    if c = '\\' then
      match r with
      | [] => .error .danglingEscape
      | d :: r => Option.map (.literal d :: ·) <$> globPieces fuel r
    else if c = '*' then Option.map (.anyRun :: ·) <$> globPieces fuel r
    else if c = '?' then Option.map (.anyChar :: ·) <$> globPieces fuel r
    else if c = '[' then
      let (negated, r) := match r with
        | '!' :: r => (true, r)
        | '^' :: r => (true, r)
        | r => (false, r)
      match classBody true r with
      | none => .ok none
      | some (body, rest) =>
        match classItems body with
        | .error e => .error e
        | .ok items => Option.map (.oneOf negated items :: ·) <$> globPieces fuel rest
    else Option.map (.literal c :: ·) <$> globPieces fuel r

def segmentOf (s : List Char) : Except PatternFault (Option Segment) :=
  if s = ['*', '*'] then .ok (some .directories)
  else if s = ['*'] then .ok (some .wholeName)
  else Option.map Segment.glob <$> globPieces (s.length + 1) s

def segmentsOf : List (List Char) → Except PatternFault (Option (List Segment))
  | [] => .ok (some [])
  | s :: r =>
    match segmentOf s with
    | .error e => .error e
    | .ok none => .ok none
    | .ok (some g) => Option.map (g :: ·) <$> segmentsOf r

def mergeDirectories : List (List Char) → List (List Char)
  | ['*', '*'] :: ['*', '*'] :: r => mergeDirectories (['*', '*'] :: r)
  | s :: r => s :: mergeDirectories r
  | [] => []

/-- Gives every pattern a start and an end: without a slash before its last character it may stand
anywhere, and a final slash means all that is below. -/
def completed (segs : List (List Char)) : List (List Char) :=
  let fromTop := match segs with
    | [] :: r => r
    | [s] => if s = ['*', '*'] then [s] else [['*', '*'], s]
    | [s, []] => if s = ['*', '*'] then [s, []] else [['*', '*'], s, []]
    | segs => segs
  let ended := if fromTop.getLast? = some [] then fromTop.dropLast ++ [['*', '*']] else fromTop
  mergeDirectories ended

def shapeOf (text : List Char) : Except PatternFault (Option Shape) :=
  let segs := Text.splitAt '/' text
  let below := segs.getLast? == some []
  match completed segs with
  | [] => .error .empty
  | [['*', '*']] => .ok (some (if below then .nested else .everything))
  | [['*', '*'], ['*']] => .ok (some .everything)
  | [['*', '*'], ['*'], ['*', '*']] => .ok (some .nested)
  | segs => Option.map (Shape.path · below) <$> segmentsOf segs

def withoutTrailingBlanks (line : List Char) : List Char :=
  if ['\\', ' '].isSuffixOf line then line else Text.trimEnd line

/-- Reads one line. Blank lines, comments, a lone slash and a class left open select nothing. -/
def Pattern.ofLine (line : List Char) : Except PatternFault (Option Pattern) :=
  match withoutTrailingBlanks line with
  | [] => .ok none
  | ['/'] => .ok none
  | '#' :: _ => .ok none
  | '!' :: text => Option.map (Pattern.mk true) <$> shapeOf text
  | text => Option.map (Pattern.mk false) <$> shapeOf text

def ClassItem.holds (x : Char) : ClassItem → Bool
  | .one c => x = c
  | .span low high => low ≤ x && x ≤ high

def afterRun : List Char → List (List Char)
  | [] => [[]]
  | c :: r => if c = '/' then [c :: r] else afterRun r ++ [c :: r]

def Piece.remainders : Piece → List Char → List (List Char)
  | .literal c, x :: r => if x = c then [r] else []
  | .anyChar, x :: r => if x = '/' then [] else [r]
  | .oneOf negated items, x :: r => if items.any (·.holds x) != negated then [r] else []
  | .anyRun, s => afterRun s
  | _, [] => []

def globRemainders : List Piece → List Char → List (List Char)
  | [], s => [s]
  | p :: ps, s => (p.remainders s).flatMap (globRemainders ps)

def nameRemainders (s : List Char) : List (List Char) :=
  (afterRun s).filter fun r => r.length < s.length

def afterDirectories : Bool → List Char → List (List Char)
  | _, [] => []
  | started, c :: r =>
    if c = '\n' then []
    else afterDirectories true r ++ (if started && c = '/' then [r] else [])

def afterInner : List Char → List (List Char)
  | [] => []
  | c :: r => if c = '\n' then [] else afterInner r ++ [r]

inductive Reach
  | throughDirectory
  | file
deriving DecidableEq, Repr

def reachAtEnd : List Char → Option Reach
  | [] => some .file
  | ['\n'] => some .file
  | c :: _ => if c = '/' then some .throughDirectory else none

/-- Matches segments from left to right. `first` marks the start of the path, `slash` that a name
comes next after a slash. -/
def reach (below : Bool) : Bool → Bool → List Segment → List Char → Option Reach
  | _, _, [], s => reachAtEnd s
  | true, _, .directories :: segs, s =>
    (afterDirectories false s ++ [s]).findSome? (reach below false false segs)
  | false, _, [.directories], s =>
    match s with
    | '/' :: _ => some (if below then .throughDirectory else .file)
    | _ => none
  | false, _, .directories :: segs, s =>
    let inner := match s with
      | '/' :: r => afterInner r
      | _ => []
    (inner ++ [s]).findSome? (reach below false true segs)
  | _, true, .wholeName :: segs, '/' :: s =>
    (nameRemainders s).findSome? (reach below false true segs)
  | _, true, .glob ps :: segs, '/' :: s =>
    (globRemainders ps s).findSome? (reach below false true segs)
  | _, true, _ :: _, _ => none
  | _, false, .wholeName :: segs, s => (nameRemainders s).findSome? (reach below false true segs)
  | _, false, .glob ps :: segs, s => (globRemainders ps s).findSome? (reach below false true segs)

def Pattern.reaches (p : Pattern) (path : List Char) : Option Reach :=
  match p.shape with
  | .everything => if path.any (· != '\n') then some .file else none
  | .nested => if path.contains '/' then some .throughDirectory else none
  | .path segs below => reach below true false segs path

end ConfigKeeper.Wildcard
