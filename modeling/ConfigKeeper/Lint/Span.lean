import ConfigKeeper.Lint.Diagnostic
import ConfigKeeper.Text.Slice

/-!
Spans over the bytes of a source. A span may be any two numbers, so it is checked against the bytes first. What
is told of the stretch that it marks is read back from the bytes, which might fail between characters.
-/

namespace ConfigKeeper

structure SourceSpan where
  source : List Char
  start : Int
  stop : Int
deriving DecidableEq, Repr

namespace SourceSpan

variable (x : SourceSpan)

def bytes : List UInt8 := Text.encodeUtf8 x.source

def front : List UInt8 := Text.slice x.bytes 0 x.start

def covered : List UInt8 := Text.slice x.bytes x.start x.stop

def splitsChar (offset : Int) : Bool := x.bytes[offset.toNat]?.any fun b => b &&& 0xc0 == 0x80

def check : Except SpanFault Unit :=
  if 0 ≤ x.start && x.start ≤ x.stop && x.stop ≤ x.bytes.length then
    if x.splitsChar x.start then .error (.notBoundary x.start)
    else if x.splitsChar x.stop then .error (.notBoundary x.stop)
    else .ok ()
  else .error (.outOfBounds x.start x.stop x.bytes.length)

def excerpt : Except Text.Utf8Fault String := (Text.decodeUtf8 x.covered).map String.ofList

def line : Nat := x.front.count 10 + 1

def column : Except Text.Utf8Fault Nat :=
  (Text.decodeUtf8 x.front).map fun before => before.length - Text.lastRowStart before + 1

def charSpan : Except Text.Utf8Fault (Nat × Nat) := do
  let before ← Text.decodeUtf8 x.front
  let marked ← x.excerpt
  pure (before.length, before.length + marked.length)

end SourceSpan

end ConfigKeeper
