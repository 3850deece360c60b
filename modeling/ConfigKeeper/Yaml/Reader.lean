import ConfigKeeper.Yaml.Heap
import ConfigKeeper.Yaml.Node
import ConfigKeeper.Yaml.Scalar

/-!
Reading YAML documents: the values that their nodes stand for. The pairs of a merged mapping come
before those of the mapping that merges it, which therefore prevail.
-/

namespace ConfigKeeper.Yaml

namespace Node

mutual

def numbered : Node → List (Nat × Node)
  | .sequence id tag items => (id, .sequence id tag items) :: numberedIn items
  | .mapping id tag pairs => (id, .mapping id tag pairs) :: numberedInPairs pairs
  | _ => []

def numberedIn : List Node → List (Nat × Node)
  | [] => []
  | n :: ns => n.numbered ++ numberedIn ns

def numberedInPairs : List (Node × Node) → List (Nat × Node)
  | [] => []
  | (k, v) :: ps => k.numbered ++ v.numbered ++ numberedInPairs ps

end

def taggedKinds : List (String × Kind) := [
  ("str", .string), ("int", .int), ("float", .float), ("bool", .bool), ("null", .null),
  ("timestamp", .moment), ("binary", .binary), ("merge", .merge), ("value", .value)]

inductive Shape
  | table
  | list
  | set
  | pairs
deriving DecidableEq, Repr

def taggedShapes : List (String × Shape) := [
  ("map", .table), ("seq", .list), ("set", .set), ("omap", .pairs), ("pairs", .pairs)]

def standardName? (tag : String) : Option String :=
  (Text.afterWord standardTags.toList tag.toList).map String.ofList

def scalarKind? (tag : Option String) (plain : Bool) (text : String) : Option Kind :=
  match tag with
  | some t => (standardName? t).bind fun name => taggedKinds.lookup name
  | none => some (if plain then kindOf text else .string)

def shapeOr (default : Option Shape) (tag : Option String) : Option Shape :=
  match tag with
  | some t => (standardName? t).bind fun name => taggedShapes.lookup name
  | none => default

/-- The shape that a node asks for, whether it is of that shape or not. -/
def shape? : Node → Option Shape
  | .scalar tag _ _ => shapeOr none tag
  | .sequence _ tag _ => shapeOr (some .list) tag
  | .mapping _ tag _ => shapeOr (some .table) tag
  | .alias _ => none

def isMergeKey : Node → Bool
  | .scalar tag plain text => scalarKind? tag plain text = some .merge
  | _ => false

/-- A key that is an equals sign stands for itself. -/
def plainKey : Node → Node
  | .scalar tag plain text =>
    if scalarKind? tag plain text = some .value then .scalar none false text
    else .scalar tag plain text
  | n => n

def scalarItem (tag : Option String) (plain : Bool) (text : String) : Except Fault Item :=
  match scalarKind? tag plain text with
  | some .binary => if isBinary text.toList then .ok (.other "bytes" []) else fail .binary
  | kind => match kind.bind fun k => ofKind? k text with
    | some (.ok v) => .ok (.leaf v)
    | some (.error m) => fail (.unreadable m)
    | none => fail .unknownTag

section Document

variable (nodes : List (Nat × Node))

def meant : Node → Node
  | .alias id => (nodes.lookup id).getD empty
  | n => n

def taken (flat : Nat → List (Node × Node) → Except Fault (List (Node × Node))) (n : Node) :
    Except Fault (List (Node × Node)) :=
  match meant nodes n with
  | .mapping id _ pairs => flat id pairs
  | .sequence _ _ items => do
    let parts ← items.mapM fun item => match meant nodes item with
      | .mapping id _ pairs => flat id pairs
      | _ => fail .merge
    .ok parts.reverse.flatten
  | _ => fail .merge

/-- The pairs of a mapping with those of all it merges in front. A mapping that is merged into itself
adds its own pairs; `fuel` bounds how deep merging goes. -/
def flatPairs : Nat → List Nat → Nat → List (Node × Node) → Except Fault (List (Node × Node))
  | 0, _, _, _ => fail .merge
  | fuel + 1, around, id, pairs => do
    let own := (pairs.filter fun p => !p.1.isMergeKey).map fun p => (p.1.plainKey, p.2)
    if around.contains id then .ok own
    else
      let merged ← (pairs.filter fun p => p.1.isMergeKey).mapM fun p =>
        taken nodes (flatPairs fuel (id :: around)) p.2
      .ok (merged.flatten ++ own)

def pairsOf (id : Nat) (pairs : List (Node × Node)) : Except Fault (List (Node × Node)) :=
  flatPairs nodes (nodes.length + 2) [] id pairs

def opened (n : Node) : Except Fault (List Node) :=
  let n := meant nodes n
  match n.shape?, n with
  | some _, n => .ok [n]
  | none, .scalar tag plain text => (scalarItem tag plain text).map fun _ => []
  | none, _ => fail .unknownTag

def openedAll (ns : List Node) : Except Fault (List Node) := (ns.mapM (opened nodes)).map List.flatten

def openedPair (p : Node × Node) : Except Fault (List Node) := do
  let inKey ← opened nodes p.1
  if inKey.isEmpty then opened nodes p.2 else fail .unhashableKey

def onlyPair : Node → Except Fault (Node × Node)
  | .mapping _ _ [p] => .ok p
  | _ => fail .shape

def inside (n : Node) : Except Fault (List Node) :=
  match n.shape?, n with
  | some .table, .mapping id _ pairs | some .set, .mapping id _ pairs => do
    let parts ← (← pairsOf nodes id pairs).mapM (openedPair nodes)
    .ok parts.flatten
  | some .list, .sequence _ _ items => openedAll nodes items
  | some .pairs, .sequence _ _ items => do
    let parts ← items.mapM fun item => do
      let (k, v) ← onlyPair (meant nodes item)
      openedAll nodes [k, v]
    .ok parts.flatten
  | _, _ => fail .shape

def id? : Node → Option Nat
  | .sequence id _ _ | .mapping id _ _ => some id
  | _ => none

def isNew (seen : List Nat) (n : Node) : Bool := n.id?.all fun id => !seen.contains id

/-- Looks at nodes level by level and at each once, so the first fault is that of a node nearest to the
top; `fuel` bounds the levels. -/
def check : Nat → List Nat → List Node → Except Fault Unit
  | 0, _, _ => .ok ()
  | fuel + 1, seen, level => do
    let level := level.filter (isNew seen)
    if level.isEmpty then .ok ()
    else
      let parts ← level.mapM (inside nodes)
      check fuel (level.filterMap id? ++ seen) parts.flatten

/-- The value of a node in which there is nothing wrong. -/
def item (n : Node) : Item :=
  let n := meant nodes n
  match n.shape?, n with
  | some .table, .mapping id _ _ => .table id
  | some .list, .sequence id _ _ | some .pairs, .sequence id _ _ => .list id
  | some .set, .mapping id _ pairs =>
    .other "set" (((pairsOf nodes id pairs).toOption.getD []).map fun p => scalar p.1)
  | _, n => scalar n
where
  scalar (n : Node) : Item :=
    match meant nodes n with
    | .scalar tag plain text => (scalarItem tag plain text).toOption.getD (.leaf .null)
    | _ => .leaf .null

def addPair (t : Table) (p : Node × Node) : Table :=
  match item nodes p.1 with
  | .leaf key => put t key (item nodes p.2)
  | _ => t

def table (id : Nat) : Table :=
  match nodes.lookup id with
  | some (.mapping _ _ pairs) => ((pairsOf nodes id pairs).toOption.getD []).foldl (addPair nodes) []
  | _ => []

def list (id : Nat) : List Item :=
  match nodes.lookup id with
  | some (.sequence id tag items) =>
    if shape? (.sequence id tag items) = some .pairs then
      items.filterMap fun n => match onlyPair (meant nodes n) with
        | .ok (k, v) => some (.other "tuple" [item nodes k, item nodes v])
        | .error _ => none
    else items.map (item nodes)
  | _ => []

end Document

end Node

def parse (s : List Char) : Except Fault (Item × Heap) := do
  let ts ← tokens s
  match ← Node.document? ts with
  | some n => do
    let nodes := n.numbered
    Node.check nodes (nodes.length + 2) [] (← n.opened nodes)
    .ok (Node.item nodes n, ⟨Node.table nodes, Node.list nodes, nodes.length⟩)
  | none => .ok (.leaf .null, .empty)

end ConfigKeeper.Yaml
