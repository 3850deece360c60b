import ConfigKeeper.Text.Position

/-!
A diagnostic marks a stretch of a source. It keeps the text before, in and after the stretch, so
every position is a count over one of them.
-/

namespace ConfigKeeper

structure Diagnostic where
  rule : String
  file : String
  before : List Char
  marked : List Char
  after : List Char
  message : String
  advice : String
deriving DecidableEq, Repr

inductive SpanFault
  | outOfBounds (start stop : Int) (size : Nat)
  | notBoundary (offset : Int)
deriving DecidableEq, Repr

def SpanFault.message : SpanFault → String
  | .outOfBounds start stop size =>
    "span (" ++ toString start ++ ", " ++ toString stop ++ ") out of bounds for source of " ++
      toString size ++ " bytes"
  | .notBoundary offset => "span offset " ++ toString offset ++ " is not a UTF-8 boundary"

namespace Diagnostic

def source (d : Diagnostic) : List Char := d.before ++ d.marked ++ d.after

def span (d : Diagnostic) : Nat × Nat :=
  (Text.byteLength d.before, Text.byteLength (d.before ++ d.marked))

def charSpan (d : Diagnostic) : Nat × Nat := (d.before.length, (d.before ++ d.marked).length)

def excerpt (d : Diagnostic) : String := String.ofList d.marked

def leadIn (d : Diagnostic) : List Char := (d.before.reverse.takeWhile (· != '\n')).reverse

def line (d : Diagnostic) : Nat := d.before.count '\n' + 1

def column (d : Diagnostic) : Nat := d.leadIn.length + 1

def positions (source : List Char) (start stop : Int) : Except SpanFault (Nat × Nat) :=
  let size := Text.byteLength source
  if 0 ≤ start && start ≤ stop && stop ≤ size then
    match Text.charIndex? source start.toNat, Text.charIndex? source stop.toNat with
    | none, _ => .error (.notBoundary start)
    | _, none => .error (.notBoundary stop)
    | some i, some j => .ok (i, j)
  else .error (.outOfBounds start stop size)

def ofPositions (rule file message advice : String) (source : List Char) (i j : Nat) :
    Diagnostic where
  rule := rule
  file := file
  before := source.take i
  marked := (source.take j).drop i
  after := source.drop j
  message := message
  advice := advice

def ofSpan (rule file message advice : String) (source : List Char) (start stop : Int) :
    Except SpanFault Diagnostic :=
  (positions source start stop).map fun (i, j) => ofPositions rule file message advice source i j

end Diagnostic

end ConfigKeeper
