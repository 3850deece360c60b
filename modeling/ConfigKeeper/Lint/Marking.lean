import ConfigKeeper.Lint.Engine

/-!
How a rule marks a node. The reader counts rows and byte columns, and a node knows the points of both its
ends. Its byte span is found over the rows of the source, and a diagnostic is built only on a span that
lies in the source and between its characters.
-/

namespace ConfigKeeper.Text

def Point.next (p : Point) (b : UInt8) : Point :=
  if b = 10 then ⟨p.row + 1, 0⟩ else ⟨p.row, p.column + 1⟩

def pointAfter (bytes : List UInt8) : Point := bytes.foldl Point.next ⟨0, 0⟩

end ConfigKeeper.Text

namespace ConfigKeeper.Lint

inductive MarkFault
  | point (f : Text.PointFault)
  | text (f : Text.Utf8Fault)
  | span (f : SpanFault)
deriving DecidableEq, Repr

end ConfigKeeper.Lint

namespace ConfigKeeper.Elixir.Source

open Lint (MarkFault)

variable (s : Source) (n : Tree.Located)

def bytes : List UInt8 := Text.encodeUtf8 s.text.toList

def pointAt (i : Nat) : Text.Point := Text.pointAfter (Text.encodeUtf8 (s.text.toList.take i))

def nodeSpan : Except MarkFault (Nat × Nat) := do
  let start ← (Text.offsetOfPoint s.bytes (s.pointAt n.offset)).mapError .point
  let stop ← (Text.offsetOfPoint s.bytes (s.pointAt (n.offset + n.tree.text.length))).mapError .point
  pure (start, stop)

def nodeText : Except MarkFault String := do
  let (start, stop) ← s.nodeSpan n
  let chars ← (Text.decodeUtf8 ((s.bytes.take stop).drop start)).mapError .text
  pure (String.ofList chars)

end ConfigKeeper.Elixir.Source

namespace ConfigKeeper.Lint

open Elixir

def Rule.mark (r : Rule) (file : String) (s : Source) (n : Tree.Located) : Except MarkFault Diagnostic := do
  let (start, stop) ← s.nodeSpan n
  (Diagnostic.ofSpan r.name file r.explain r.advice s.text.toList start stop).mapError .span

def Rule.markAll (r : Rule) (s : Source) (file : String) : Except MarkFault (List Diagnostic) :=
  (r.found s).mapM (r.mark file s)

def markSource (g : Registry) (text file : String) : Except MarkFault (List Diagnostic) :=
  match g.rulesFor file with
  | [] => .ok []
  | rules => List.flatten <$> rules.mapM fun r => r.markAll (Source.parse text) file

end ConfigKeeper.Lint
