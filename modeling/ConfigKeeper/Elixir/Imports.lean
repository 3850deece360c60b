import ConfigKeeper.Elixir.Source

/-!
Imports of config files, bare or behind a check that the file exists, and reads of environment
variables. A string counts by its plain pieces, the stretches between escapes and interpolations.
-/

namespace ConfigKeeper.Elixir

def importNames : List String := ["import_config", "import_config!"]

def existsName : String := "File.exists?"

def conditionalWord : String := "if"

def andOperators : List String := ["&&", "and"]

def Tree.textString (t : Tree) : String := String.ofList t.text

def Spot.text (s : Spot) : String := s.tree.textString

def isPlain : Tree → Bool
  | .leaf .content _ => true
  | _ => false

def pieces (string : Spot) : List Spot := string.children.filter fun s => isPlain s.tree

structure StringCall where
  target : Spot
  pieces : List Spot

def stringCall? (s : Spot) : Option StringCall :=
  if s.kind = .call then
    match s.firstPart?, s.childOfKind? .arguments with
    | some target, some args =>
      match args.namedChildren with
      | [a] => if a.kind = .string then some ⟨target, pieces a⟩ else none
      | _ => none
    | _, _ => none
  else none

def namedStringCall? (s : Spot) : Option StringCall :=
  match stringCall? s with
  | some call => if call.target.kind = .identifier then some call else none
  | none => none

/-- What an import may look like: a call, an `if` around one, or an operator before one. `word` is
the conditional or the operator. -/
inductive ImportShape
  | bare (call : StringCall)
  | conditional (word : String) (check call : StringCall)
  | joined (word : String) (check call : StringCall)

def conditional? (s : Spot) : Option ImportShape :=
  if s.kind = .call then
    match s.firstPart?, s.childOfKind? .arguments, s.childOfKind? .doBlock with
    | some target, some args, some block =>
      if target.kind = .identifier then
        match args.namedChildren.head?.bind stringCall?,
          block.namedChildren.head?.bind namedStringCall? with
        | some check, some call => some (.conditional target.text check call)
        | _, _ => none
      else none
    | _, _, _ => none
  else none

def joined? (s : Spot) : Option ImportShape :=
  if s.kind = .binary then
    match s.firstPart?.bind stringCall?, s.lastPart?.bind namedStringCall? with
    | some check, some call =>
      let word := (s.childOfKind? .operator).elim "" Spot.text
      some (.joined word check call)
    | _, _ => none
  else none

def importShape? (s : Spot) : Option ImportShape :=
  match namedStringCall? s with
  | some call => some (.bare call)
  | none => match conditional? s with
    | some shape => some shape
    | none => joined? s

namespace ImportShape

def call : ImportShape → StringCall
  | .bare call => call
  | .conditional _ _ call => call
  | .joined _ _ call => call

def isImport (s : ImportShape) : Bool := importNames.contains s.call.target.text

def isGuard : ImportShape → Bool
  | .bare _ => false
  | .conditional word check _ => check.target.text = existsName && word = conditionalWord
  | .joined word check _ => check.target.text = existsName && andOperators.contains word

def piecePairs : ImportShape → List (Spot × Spot)
  | .bare _ => []
  | .conditional _ check call => call.pieces.flatMap fun p => check.pieces.map fun c => (c, p)
  | .joined _ check call => call.pieces.flatMap fun p => check.pieces.map fun c => (c, p)

end ImportShape

namespace Tree

/-- A node with the characters before it and the kind of its parent. -/
structure Located where
  offset : Nat
  tree : Tree
  parent : Option Kind

namespace Located

def stop (n : Located) : Nat := n.offset + n.tree.text.length

def range (n : Located) : Nat × Nat := (n.offset, n.stop)

/-- The nodes that cover a stretch which none before them covers. -/
def unseen (seen : List (Nat × Nat)) : List Located → List Located
  | [] => []
  | n :: ns => if n.range ∈ seen then unseen seen ns else n :: unseen (n.range :: seen) ns

end Located

mutual

def locate (offset : Nat) (parent : Option Kind) : Tree → List Located
  | .leaf k s => [⟨offset, .leaf k s, parent⟩]
  | .node k cs => ⟨offset, .node k cs, parent⟩ :: locateAll offset k cs

def locateAll (offset : Nat) (parent : Kind) : List Tree → List Located
  | [] => []
  | t :: ts => locate offset (some parent) t ++ locateAll (offset + t.text.length) parent ts

end

def nodes (t : Tree) : List Located := locate 0 none t

mutual

def spotsAt (place : List Nat) : Tree → List Spot
  | .leaf k s => [⟨place, .leaf k s⟩]
  | .node k cs => ⟨place, .node k cs⟩ :: spotsFrom place 0 cs

def spotsFrom (place : List Nat) : Nat → List Tree → List Spot
  | _, [] => []
  | i, t :: ts => spotsAt (place ++ [i]) t ++ spotsFrom place (i + 1) ts

end

def plainSpots (t : Tree) : List Spot := (spotsAt [] t).filter fun s => isPlain s.tree

def nextNamed? (siblings : List Spot) : Option Spot := siblings.find? fun s => s.tree.isNamed

mutual

def commentedAt (place : List Nat) : Tree → List (Spot × Spot)
  | .leaf _ _ => []
  | .node _ cs => commentedFrom place 0 cs

def commentedFrom (place : List Nat) : Nat → List Tree → List (Spot × Spot)
  | _, [] => []
  | i, t :: ts =>
    let here :=
      if t.kind = .comment then
        (nextNamed? (listed place (i + 1) ts)).toList.map fun u => (⟨place ++ [i], t⟩, u)
      else []
    here ++ commentedAt (place ++ [i]) t ++ commentedFrom place (i + 1) ts

end

def commented (t : Tree) : List (Spot × Spot) := commentedAt [] t

end Tree

def environmentModule : String := "System"

def environmentFunctions : List String := ["get_env", "fetch_env", "fetch_env!"]

def namePieces (s : Spot) : List Spot :=
  match (s.childOfKind? .arguments).bind fun args => args.namedChildren.head? with
  | some a => if a.kind = .string then pieces a else []
  | none => []

def isEnvironmentRead (s : Spot) : Bool :=
  s.kind = .call &&
    (match s.firstPart? with
      | some target =>
        target.kind = .dot &&
          (match target.firstPart?, target.lastPart? with
            | some m, some f =>
              m.kind = .moduleName && m.text = environmentModule && f.kind = .identifier &&
                environmentFunctions.contains f.text
            | _, _ => false)
      | none => false) &&
    (match s.childOfKind? .arguments with
      | some args =>
        match args.namedChildren.head? with
        | some a => a.kind = .string && !(pieces a).isEmpty
        | none => false
      | none => false)

end ConfigKeeper.Elixir
