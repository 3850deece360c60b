import ConfigKeeper.Text.Utf8

namespace ConfigKeeper.Text

structure Point where
  row : Nat
  column : Nat
deriving DecidableEq, Repr

def byteOffset (s : List Char) (i : Nat) : Nat := byteLength (s.take i)

/-- The index of the character that starts at byte `b`, if one does or if the text ends there. -/
def charIndex? : List Char → Nat → Option Nat
  | _, 0 => some 0
  | [], _ + 1 => none
  | c :: r, b + 1 =>
    if c.utf8Size ≤ b + 1 then (charIndex? r (b + 1 - c.utf8Size)).map (· + 1) else none

/-- Where the last row of a text starts: behind its last line feed, or at the front if it has none. -/
def lastRowStart (s : List Char) : Nat := (s.reverse.dropWhile (· != '\n')).length

/-- The byte offsets at which rows start, `base` the offset of the first of `bytes`. -/
def rowStartsFrom (base : Nat) : List UInt8 → List Nat
  | [] => []
  | b :: r =>
    if b = 10 then (base + 1) :: rowStartsFrom (base + 1) r
    else rowStartsFrom (base + 1) r

def rowStarts (bytes : List UInt8) : List Nat := 0 :: rowStartsFrom 0 bytes

inductive PointFault
  | row (r : Nat)
  | point (p : Point)
deriving DecidableEq, Repr

def PointFault.message : PointFault → String
  | .row r => "Row " ++ toString r ++ " is outside the source"
  | .point p =>
    "Point (" ++ toString p.row ++ ", " ++ toString p.column ++ ") is outside the source"

def offsetOfPoint (bytes : List UInt8) (p : Point) : Except PointFault Nat :=
  match (rowStarts bytes)[p.row]? with
  | none => .error (.row p.row)
  | some start =>
    if start + p.column ≤ bytes.length then .ok (start + p.column) else .error (.point p)

def pointOfOffset (bytes : List UInt8) (offset : Nat) : Point :=
  let before := (rowStarts bytes).takeWhile (· ≤ offset)
  ⟨before.length - 1, offset - before.getLastD 0⟩

end ConfigKeeper.Text
