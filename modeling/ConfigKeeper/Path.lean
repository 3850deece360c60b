import ConfigKeeper.Text.Split

/-!
Slash-separated paths. A path is an anchor and a list of names; empty names and `.` are dropped when
it is read, `..` is kept.
-/

namespace ConfigKeeper

/-- Where a path starts: at the working directory, at `/`, or at the `//` that stays apart from
it. -/
inductive Anchor
  | relative
  | root
  | doubleRoot
deriving DecidableEq, Repr, Inhabited

def Anchor.text : Anchor → String
  | .relative => ""
  | .root => "/"
  | .doubleRoot => "//"

structure Path where
  anchor : Anchor
  names : List String
deriving DecidableEq, Repr, Inhabited

namespace Path

def anchorOf : List Char → Anchor
  | '/' :: '/' :: '/' :: _ => .root
  | '/' :: '/' :: _ => .doubleRoot
  | '/' :: _ => .root
  | _ => .relative

def ofString (s : String) : Path where
  anchor := anchorOf s.toList
  names := (splitOnChar '/' s).filter fun name => name != "" && name != "."

def toString (p : Path) : String :=
  match p.anchor, p.names with
  | .relative, [] => "."
  | a, names => a.text ++ "/".intercalate names

instance : ToString Path := ⟨Path.toString⟩

def isAbsolute (p : Path) : Bool := p.anchor != .relative

def join (p q : Path) : Path :=
  if q.isAbsolute then q else { p with names := p.names ++ q.names }

def under (p : Path) (names : List String) : Path := { p with names := p.names ++ names }

def parent (p : Path) : Path := { p with names := p.names.dropLast }

def name (p : Path) : String := p.names.getLastD ""

def suffixOf (name : List Char) : List Char :=
  let after := (name.reverse.takeWhile (· != '.')).reverse
  let before := name.length - after.length - 1
  if after.isEmpty || after.length == name.length || before == 0 then [] else '.' :: after

def suffix (p : Path) : String := String.ofList (suffixOf p.name.toList)

def relativeTo? (p base : Path) : Option Path :=
  if p.anchor = base.anchor then
    if base.names.isPrefixOf p.names then some ⟨.relative, p.names.drop base.names.length⟩ else none
  else none

def components (p : Path) : List String :=
  if p.isAbsolute then p.anchor.text :: p.names else p.names

def lexLess : List String → List String → Bool
  | [], [] => false
  | [], _ :: _ => true
  | _ :: _, [] => false
  | a :: as, b :: bs => if a = b then lexLess as bs else decide (a < b)

def less (p q : Path) : Bool := lexLess p.components q.components

end Path

end ConfigKeeper
