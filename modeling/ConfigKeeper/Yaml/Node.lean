import ConfigKeeper.Yaml.Token

/-!
The nodes of a YAML text: scalars, sequences and mappings as they are written, with their tags.
Sequences and mappings are numbered, and an alias of one gives its number; it may stand inside it.
-/

namespace ConfigKeeper.Yaml

/-- A tag is missing where none is written. Only a plain scalar without one can be something other
than a text. -/
inductive Node
  | scalar (tag : Option String) (plain : Bool) (text : String)
  | sequence (id : Nat) (tag : Option String) (items : List Node)
  | mapping (id : Nat) (tag : Option String) (pairs : List (Node × Node))
  | alias (id : Nat)
deriving Repr

namespace Node

def empty : Node := .scalar none true ""

def standardTags : String := "tag:yaml.org,2002:"

def standardHandles : List (String × String) := [("!", "!"), ("!!", standardTags)]

structure State where
  rest : List Token
  anchors : List (String × Node)
  handles : List (String × String)
  count : Nat

abbrev Reader (α : Type) := State → Except Fault (α × State)

def fail {α : Type} (reason : Reason) : Except Fault α := .error ⟨reason, 0⟩

def State.next (s : State) : Token := s.rest.headD .streamEnd

def State.drop (s : State) : State := { s with rest := s.rest.drop 1 }

def resolveTag (s : State) (handle : Option String) (suffix : String) :
    Except Fault (Option String) :=
  match handle with
  | none => .ok (if suffix = "!" then none else some suffix)
  | some h => match s.handles.lookup h with
    | some start => .ok (some (start ++ suffix))
    | none => fail .handle

def isPlainTag (handle : Option String) (suffix : String) : Bool := handle.isNone && suffix = "!"

structure Head where
  anchor : Option String
  tag : Option String
  untagged : Bool
  state : State

def head (s : State) : Except Fault Head :=
  match s.next with
  | .anchor a => match s.drop.next with
    | .tag handle suffix => do
      let tag ← resolveTag s handle suffix
      .ok ⟨some a, tag, isPlainTag handle suffix, s.drop.drop⟩
    | _ => .ok ⟨some a, none, false, s.drop⟩
  | .tag handle suffix => do
    let tag ← resolveTag s handle suffix
    match s.drop.next with
    | .anchor a => .ok ⟨some a, tag, isPlainTag handle suffix, s.drop.drop⟩
    | _ => .ok ⟨none, tag, isPlainTag handle suffix, s.drop⟩
  | _ => .ok ⟨none, none, false, s⟩

def State.name (s : State) (anchor : Option String) (n : Node) : State :=
  match anchor with
  | some a => { s with anchors := (a, n) :: s.anchors }
  | none => s

/-- Numbers a sequence or mapping, which its anchor names from its start on. -/
def State.enter (s : State) (anchor : Option String) : State :=
  { s with count := s.count + 1 }.name anchor (.alias s.count)

def checkAnchor (s : State) : Option String → Except Fault Unit
  | some a => if (s.anchors.lookup a).isSome then fail .repeatedAnchor else .ok ()
  | none => .ok ()

/-- Where a node stands: in a block or in brackets, and whether a sequence may begin at the column
of the mapping around it. -/
inductive Setting
  | block
  | blockOrDashes
  | brackets
deriving DecidableEq, Repr

def isOneOf (t : Token) (ts : List Token) : Bool := ts.contains t

mutual

def node : Nat → Setting → Reader Node
  | 0, _, _ => fail .content
  | fuel + 1, setting, s =>
    match s.next with
    | .alias a => match s.anchors.lookup a with
      | some n => .ok (n, s.drop)
      | none => fail .unknownAlias
    | _ => do
      let h ← head s
      checkAnchor h.state h.anchor
      content fuel setting h

def content : Nat → Setting → Head → Except Fault (Node × State)
  | 0, _, _ => fail .content
  | fuel + 1, setting, h =>
    let s := h.state
    match s.next with
    | .scalar plain text =>
      let n := .scalar h.tag (h.tag.isNone && (plain || h.untagged)) text
      .ok (n, s.drop.name h.anchor n)
    | .flowSequenceStart => do
      let (items, after) ← flowItems fuel true (s.enter h.anchor).drop
      .ok (.sequence s.count h.tag items, after)
    | .flowMappingStart => do
      let (pairs, after) ← flowPairs fuel true (s.enter h.anchor).drop
      .ok (.mapping s.count h.tag pairs, after)
    | .sequenceStart =>
      if setting = .brackets then fail .content
      else do
        let (items, after) ← blockItems fuel (s.enter h.anchor).drop
        .ok (.sequence s.count h.tag items, after)
    | .mappingStart =>
      if setting = .brackets then fail .content
      else do
        let (pairs, after) ← blockPairs fuel (s.enter h.anchor).drop
        .ok (.mapping s.count h.tag pairs, after)
    | .entry =>
      if setting = .blockOrDashes then do
        let (items, after) ← dashItems fuel (s.enter h.anchor)
        .ok (.sequence s.count h.tag items, after)
      else orEmpty h
    | _ => orEmpty h

def orEmpty (h : Head) : Except Fault (Node × State) :=
  let n := .scalar h.tag h.tag.isNone ""
  if h.anchor.isSome || h.tag.isSome || h.untagged then .ok (n, h.state.name h.anchor n) else fail .content

def blockItems : Nat → Reader (List Node)
  | 0, _ => fail .content
  | fuel + 1, s =>
    match s.next with
    | .entry => do
      let s := s.drop
      let (n, s) ←
        if isOneOf s.next [.entry, .blockEnd] then .ok (empty, s) else node fuel .block s
      let (ns, s) ← blockItems fuel s
      .ok (n :: ns, s)
    | .blockEnd => .ok ([], s.drop)
    | _ => fail .content

def dashItems : Nat → Reader (List Node)
  | 0, _ => fail .content
  | fuel + 1, s =>
    match s.next with
    | .entry => do
      let s := s.drop
      let (n, s) ←
        if isOneOf s.next [.entry, .key, .value, .blockEnd] then .ok (empty, s)
        else node fuel .block s
      let (ns, s) ← dashItems fuel s
      .ok (n :: ns, s)
    | _ => .ok ([], s)

def blockPairs : Nat → Reader (List (Node × Node))
  | 0, _ => fail .content
  | fuel + 1, s =>
    match s.next with
    | .blockEnd => .ok ([], s.drop)
    | .key => do
      let (k, s) ← blockPart fuel s.drop
      let (v, s) ← if s.next = .value then blockPart fuel s.drop else .ok (empty, s)
      let (ps, s) ← blockPairs fuel s
      .ok ((k, v) :: ps, s)
    | _ => fail .content

def blockPart : Nat → Reader Node
  | 0, _ => fail .content
  | fuel + 1, s =>
    if isOneOf s.next [.key, .value, .blockEnd] then .ok (empty, s) else node fuel .blockOrDashes s

def flowItems : Nat → Bool → Reader (List Node)
  | 0, _, _ => fail .content
  | fuel + 1, isFirst, s =>
    if s.next = .flowSequenceEnd then .ok ([], s.drop)
    else if !isFirst && s.next != .flowEntry then fail .content
    else
      let s := if isFirst then s else s.drop
      match s.next with
      | .flowSequenceEnd => .ok ([], s.drop)
      | .key => do
        let id := s.count
        let (k, s) ← flowPart fuel [.value, .flowEntry, .flowSequenceEnd] (s.enter none).drop
        let (v, s) ←
          if s.next = .value then flowPart fuel [.flowEntry, .flowSequenceEnd] s.drop
          else .ok (empty, s)
        let (ns, s) ← flowItems fuel false s
        .ok (.mapping id none [(k, v)] :: ns, s)
      | _ => do
        let (n, s) ← node fuel .brackets s
        let (ns, s) ← flowItems fuel false s
        .ok (n :: ns, s)

def flowPairs : Nat → Bool → Reader (List (Node × Node))
  | 0, _, _ => fail .content
  | fuel + 1, isFirst, s =>
    if s.next = .flowMappingEnd then .ok ([], s.drop)
    else if !isFirst && s.next != .flowEntry then fail .content
    else
      let s := if isFirst then s else s.drop
      match s.next with
      | .flowMappingEnd => .ok ([], s.drop)
      | .key => do
        let (k, s) ← flowPart fuel [.value, .flowEntry, .flowMappingEnd] s.drop
        let (v, s) ←
          if s.next = .value then flowPart fuel [.flowEntry, .flowMappingEnd] s.drop
          else .ok (empty, s)
        let (ps, s) ← flowPairs fuel false s
        .ok ((k, v) :: ps, s)
      | _ => do
        let (k, s) ← node fuel .brackets s
        let (ps, s) ← flowPairs fuel false s
        .ok ((k, empty) :: ps, s)

def flowPart : Nat → List Token → Reader Node
  | 0, _, _ => fail .content
  | fuel + 1, ends, s => if isOneOf s.next ends then .ok (empty, s) else node fuel .brackets s

end

/- Documents. -/

structure Declared where
  version : Bool
  handles : List (String × String)

def directives : Nat → Declared → State → Except Fault (Declared × State)
  | 0, d, s => .ok (d, s)
  | fuel + 1, d, s =>
    match s.next with
    | .directive "YAML" arguments =>
      if d.version || arguments.head? != some "1" then fail .directive
      else directives fuel { d with version := true } s.drop
    | .directive "TAG" [handle, start] =>
      if (d.handles.lookup handle).isSome then fail .directive
      else directives fuel { d with handles := (handle, start) :: d.handles } s.drop
    | .directive _ _ => directives fuel d s.drop
    | _ => .ok (d, s)

def dropDocumentEnds (s : State) : State := { s with rest := s.rest.dropWhile (· = .documentEnd) }

def isDocumentEdge : Token → Bool
  | .directive _ _ | .documentStart | .documentEnd | .streamEnd => true
  | _ => false

def explicitDocument (fuel : Nat) (s : State) : Except Fault (Node × State) := do
  let (d, s) ← directives fuel ⟨false, []⟩ s
  if s.next != .documentStart then fail .content
  else
    let s := { s.drop with handles := d.handles ++ standardHandles }
    if isDocumentEdge s.next then .ok (empty, s) else node fuel .block s

def document? (ts : List Token) : Except Fault (Option Node) := do
  let fuel := 4 * ts.length + 4
  let s : State := ⟨ts, [], standardHandles, 0⟩
  let (n, s) ← match s.next with
    | .directive _ _ | .documentStart | .streamEnd =>
      let s := dropDocumentEnds s
      if s.next = .streamEnd then pure (none, s)
      else (explicitDocument fuel s).map fun (n, s) => (some n, s)
    | _ => (node fuel .block s).map fun (n, s) => (some n, s)
  if (dropDocumentEnds s).next = .streamEnd then pure n else fail .severalDocuments

end Node

end ConfigKeeper.Yaml
