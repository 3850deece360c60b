import ConfigKeeper.Elixir.Token

/-!
Syntax trees of Elixir sources. A tree keeps every character of its source: white space and
comments are leaves of the innermost node that has tokens on both sides of them.
-/

namespace ConfigKeeper.Elixir

inductive Kind
  | source
  | comment
  | identifier
  | moduleName
  | number
  | char
  | atom
  | string
  | charlist
  | sigil
  | content
  | escape
  | interpolation
  | call
  | arguments
  | dot
  | binary
  | unary
  | access
  | list
  | tuple
  | map
  | bitstring
  | block
  | doBlock
  | sideBlock
  | clause
  | body
  | function
  | keywords
  | pair
  | keyword
  | operator
  | punctuation
  | blank
  | error
  | missing
deriving DecidableEq, Repr

inductive Tree
  | leaf (kind : Kind) (text : List Char)
  | node (kind : Kind) (children : List Tree)
deriving Repr

namespace Tree

def kind : Tree → Kind
  | .leaf k _ => k
  | .node k _ => k

def children : Tree → List Tree
  | .leaf _ _ => []
  | .node _ cs => cs

mutual

def text : Tree → List Char
  | .leaf _ t => t
  | .node _ cs => textOfAll cs

def textOfAll : List Tree → List Char
  | [] => []
  | t :: ts => text t ++ textOfAll ts

end

/-- Operators, punctuation and white space have no name of their own; comments have. -/
def isNamed (t : Tree) : Bool :=
  match t.kind with
  | .operator | .punctuation | .blank => false
  | _ => true

mutual

def hasError : Tree → Bool
  | .leaf k _ => k == .error || k == .missing
  | .node k cs => k == .error || k == .missing || anyError cs

def anyError : List Tree → Bool
  | [] => false
  | t :: ts => hasError t || anyError ts

end

theorem textOfAll_append (xs ys : List Tree) :
    textOfAll (xs ++ ys) = textOfAll xs ++ textOfAll ys := by
  induction xs with
  | nil => rfl
  | cons t ts ih => simp [textOfAll, ih]

def offsetAt (t : Tree) : List Nat → Nat
  | [] => 0
  | i :: p => (textOfAll (t.children.take i)).length + t.children[i]?.elim 0 fun c => c.offsetAt p

end Tree

/-- A node with the way down to it from the root of a tree: which child to take at each node. -/
structure Spot where
  place : List Nat
  tree : Tree
deriving Repr

def listed (place : List Nat) : Nat → List Tree → List Spot
  | _, [] => []
  | i, t :: ts => ⟨place ++ [i], t⟩ :: listed place (i + 1) ts

namespace Spot

def kind (s : Spot) : Kind := s.tree.kind

def children (s : Spot) : List Spot := listed s.place 0 s.tree.children

def namedChildren (s : Spot) : List Spot := s.children.filter fun c => c.tree.isNamed

def parts (s : Spot) : List Spot :=
  s.children.filter fun c => c.kind != .blank && c.kind != .comment

def firstPart? (s : Spot) : Option Spot := s.parts.head?

def lastPart? (s : Spot) : Option Spot := s.parts.getLast?

def childOfKind? (s : Spot) (k : Kind) : Option Spot := s.children.find? fun c => c.kind == k

end Spot

def Tree.spot (t : Tree) : Spot := ⟨[], t⟩

/-- A tree whose tokens still carry the white space and the comments before them. -/
inductive Draft
  | token (kind : Kind) (lead : List Token) (t : Token)
  | node (kind : Kind) (children : List Draft)

namespace Draft

def triviaLeaf (t : Token) : Tree :=
  match t.kind with
  | .comment => .leaf .comment t.text
  | _ => .leaf .blank t.text

mutual

def settle : Draft → List Tree × Tree
  | .token k lead t => (lead.map triviaLeaf, .leaf k t.text)
  | .node k [] => ([], .node k [])
  | .node k (c :: cs) =>
    let first := settle c
    (first.1, .node k (first.2 :: settleRest cs))

def settleRest : List Draft → List Tree
  | [] => []
  | c :: cs =>
    let first := settle c
    first.1 ++ first.2 :: settleRest cs

end

end Draft

end ConfigKeeper.Elixir
