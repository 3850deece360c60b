import ConfigKeeper.Wildcard.Pattern

/-!
Lists of patterns. In an ordinary list the last pattern that reaches a path decides. In an ignore
file a decision about the file itself is only undone by another about the file, or by a directory
that is ignored.
-/

namespace ConfigKeeper.Wildcard

abbrev Patterns := List Pattern

def ofLines : List String → Except PatternFault Patterns
  | [] => .ok []
  | line :: r =>
    match Pattern.ofLine line.toList with
    | .error e => .error e
    | .ok none => ofLines r
    | .ok (some p) => (p :: ·) <$> ofLines r

def matchedForm : List Char → List Char
  | '/' :: r => r
  | '.' :: '/' :: r => r
  | s => s

def selects (ps : Patterns) (path : String) : Bool :=
  match (ps.reverse.find? fun p => (p.reaches (matchedForm path.toList)).isSome) with
  | some p => !p.negated
  | none => false

structure Decision where
  ignored : Bool
  weight : Nat
deriving DecidableEq, Repr

def Reach.weight : Reach → Nat
  | .throughDirectory => 1
  | .file => 2

def Decision.next (path : List Char) (current : Decision) (p : Pattern) : Decision :=
  match p.reaches path with
  | none => current
  | some r =>
    if (!p.negated && r == .throughDirectory) || current.weight ≤ r.weight then
      ⟨!p.negated, r.weight⟩
    else current

def ignores (ps : Patterns) (path : String) : Bool :=
  (ps.foldl (Decision.next (matchedForm path.toList)) ⟨false, 0⟩).ignored

end ConfigKeeper.Wildcard
