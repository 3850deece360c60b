import ConfigKeeper.Elixir.Tree

/-!
From tokens to a draft tree. Expressions are read by precedence. What does not fit is kept in error
nodes and what is absent is marked, so every list of tokens gives a tree.
-/

namespace ConfigKeeper.Elixir

structure Spaced where
  lead : List Token
  token : Token
deriving DecidableEq, Repr

def spacedAux : List Token → List Token → List Spaced × List Token
  | [], lead => ([], lead.reverse)
  | t :: r, lead =>
    if t.kind = .blank || t.kind = .comment then spacedAux r (t :: lead)
    else
      let rest := spacedAux r []
      (⟨lead.reverse, t⟩ :: rest.1, rest.2)

def spaced (ts : List Token) : List Spaced × List Token := spacedAux ts []

namespace Spaced

def onNewLine (s : Spaced) : Bool := s.lead.any fun t => t.kind = .blank && t.text.contains '\n'

def isApart (s : Spaced) : Bool := !s.lead.isEmpty

def isWord (s : Spaced) (w : String) : Bool := s.token.kind = .identifier && s.token.text = w.toList

def isMark (s : Spaced) (w : String) : Bool :=
  (s.token.kind = .punctuation || s.token.kind = .operator) && s.token.text = w.toList

def draft (s : Spaced) (k : Kind) : Draft := .token k s.lead s.token

def mark (s : Spaced) : Draft := s.draft .punctuation

def asOperator (s : Spaced) : Draft := s.draft .operator

end Spaced

inductive Region
  | top
  | parens
  | doBlock
  | function
  | interpolation
  | bracket (close : String)
deriving DecidableEq, Repr

/-- `outer` holds the constructs around this one; `noDo` leaves a `do` to a call further out. -/
structure Context where
  region : Region
  outer : List Region
  noDo : Bool

namespace Region

def sideWords : List String := ["else", "rescue", "catch", "after"]

def closes (r : Region) (s : Spaced) : Bool :=
  match r with
  | .top => false
  | .parens => s.isMark ")"
  | .doBlock => s.isWord "end" || sideWords.any s.isWord
  | .function => s.isWord "end"
  | .interpolation => s.token.kind = .interpolationClose
  | .bracket close => s.isMark close

def hasLines : Region → Bool
  | .bracket _ => false
  | _ => true

def hasClauses : Region → Bool
  | .parens | .doBlock | .function => true
  | _ => false

end Region

namespace Context

def enter (c : Context) (r : Region) : Context := ⟨r, c.region :: c.outer, false⟩

def closes (c : Context) (s : Spaced) : Bool := c.region.closes s

def outerCloses (c : Context) (s : Spaced) : Bool :=
  s.token.kind != .identifier && c.outer.any fun r => r.closes s

def stops (c : Context) (s : Spaced) : Bool := c.closes s || c.outerCloses s

end Context

def missing : Draft := .node .missing []

def misplaced (s : Spaced) : Draft := .node .error [s.draft .punctuation]

def operatorLevel (s : Spaced) : Option (Nat × Bool) :=
  let op := String.ofList s.token.text
  if s.token.kind = .operator then
    if op = "<-" || op = "\\\\" then some (10, false)
    else if op = "::" then some (30, true)
    else if op = "|" then some (40, true)
    else if op = "=>" then some (50, true)
    else if op = "=" then some (70, true)
    else if op = "||" || op = "|||" then some (80, false)
    else if op = "&&" || op = "&&&" then some (90, false)
    else if ["==", "!=", "=~", "===", "!=="].contains op then some (100, false)
    else if ["<", ">", "<=", ">="].contains op then some (110, false)
    else if ["|>", "<<<", ">>>", "<<~", "~>>", "<~", "~>", "<~>", "<|>"].contains op then
      some (120, false)
    else if op = "^^^" then some (140, false)
    else if op = "//" then some (150, true)
    else if ["++", "--", "+++", "---", "<>"].contains op then some (160, true)
    else if op = ".." then some (170, true)
    else if op = "+" || op = "-" then some (180, false)
    else if op = "*" || op = "/" then some (190, false)
    else if op = "**" then some (200, false)
    else none
  else if s.token.kind = .identifier then
    if op = "when" then some (20, true)
    else if op = "or" then some (80, false)
    else if op = "and" then some (90, false)
    else if op = "in" then some (130, false)
    else none
  else none

def captureLevel : Nat := 70

def nextOperator (c : Context) :
    List Spaced → Option ((Nat × Bool) × List Draft × String × List Spaced)
  | [] => none
  | s :: r =>
    let op := String.ofList s.token.text
    if s.onNewLine && c.region.hasLines && (op = "+" || op = "-") then none
    else if s.isWord "not" then
      match r with
      | t :: r =>
        if t.isWord "in" then some ((130, false), [s.asOperator, t.asOperator], "not in", r)
        else none
      | [] => none
    else (operatorLevel s).map fun level => (level, [s.asOperator], op, r)

def quotedKeyword : Nat → List Spaced → Bool
  | _, [] => false
  | depth, s :: r =>
    match s.token.kind with
    | .openQuote => quotedKeyword (depth + 1) r
    | .sigilOpen => quotedKeyword (depth + 1) r
    | .sigilClose => quotedKeyword (depth - 1) r
    | .closeQuote =>
      if depth = 1 then
        match r with
        | t :: _ => t.token.kind = .keywordMark
        | [] => false
      else quotedKeyword (depth - 1) r
    | _ => if depth = 0 then false else quotedKeyword depth r

def startsPair : List Spaced → Bool
  | s :: r =>
    s.token.kind = .keyword || (s.token.kind = .openQuote && quotedKeyword 0 (s :: r))
  | [] => false

def startsArgument (c : Context) : List Spaced → Bool
  | [] => false
  | s :: r =>
    if s.onNewLine then false
    else match s.token.kind with
      | .identifier =>
        !(["do", "and", "or", "when", "in"].any s.isWord) && !c.closes s &&
          !(s.isWord "not" && (match r with | t :: _ => t.isWord "in" | [] => false))
      | .moduleName | .number | .char | .atom | .atomMark | .keyword | .openQuote | .sigilOpen =>
        true
      | .punctuation =>
        if s.isMark "(" || s.isMark "[" then s.isApart
        else s.isMark "\x7b" || s.isMark "%" || s.isMark "<<"
      | .operator =>
        if s.isMark "+" || s.isMark "-" then
          s.isApart && (match r with | t :: _ => !t.isApart | [] => false)
        else ["&", "!", "^", "@", "~~~", "..."].any s.isMark
      | _ => false

inductive Item
  | plain (d : Draft)
  | head (left : List Draft) (arrow : Draft)

def clausesOf : List Item → List Draft × List Draft
  | [] => ([], [])
  | .plain d :: r =>
    let rest := clausesOf r
    (d :: rest.1, rest.2)
  | .head left arrow :: r =>
    let rest := clausesOf r
    let body := if rest.1.isEmpty then [] else [Draft.node .body rest.1]
    ([], .node .clause (left ++ arrow :: body) :: rest.2)

def grouped (items : List Item) : List Draft :=
  let (before, clauses) := clausesOf items
  before ++ clauses

mutual

/-- Reads expressions until the construct ends. `apart` tells that a new expression may begin, and
`after` that a semicolon came last. -/
def statements : Nat → Context → Bool → Bool → List Spaced → List Item × List Spaced
  | 0, _, _, _, ts => ([], ts)
  | _ + 1, _, _, _, [] => ([], [])
  | fuel + 1, c, apart, after, s :: r =>
    if c.stops s then ([], s :: r)
    else if s.isMark ";" then
      let item := if after then misplaced s else s.mark
      let (items, rest) := statements fuel c true true r
      (.plain item :: items, rest)
    else
      let gap := if apart || s.onNewLine then [] else [Item.plain missing]
      match statement fuel c (s :: r) with
      | some (found, headed, rest) =>
        let (items, rest) := statements fuel c headed false rest
        (gap ++ found ++ items, rest)
      | none =>
        let (items, rest) := statements fuel c true false r
        (.plain (misplaced s) :: items, rest)

def statement : Nat → Context → List Spaced → Option (List Item × Bool × List Spaced)
  | 0, _, _ => none
  | _ + 1, _, [] => none
  | fuel + 1, c, s :: r =>
    if c.region.hasClauses && s.isMark "->" then some ([.head [] s.asOperator], true, r)
    else if c.region.hasClauses && startsPair (s :: r) then
      let (ks, rest) := pairs fuel c (s :: r)
      match rest with
      | t :: rest' =>
        if t.isMark "->" then some ([.head [.node .arguments [ks]] t.asOperator], true, rest')
        else some ([.plain ks, .plain missing], false, rest)
      | [] => some ([.plain ks, .plain missing], false, rest)
    else match expression fuel c 0 (s :: r) with
      | none => none
      | some (e, rest) =>
        match rest with
        | t :: rest' =>
          if c.region.hasClauses && t.isMark "->" then
            some ([.head [.node .arguments [e]] t.asOperator], true, rest')
          else if c.region.hasClauses && t.isMark "," then
            let (more, rest) := argumentList fuel c rest
            match rest with
            | u :: rest' =>
              if u.isMark "->" then
                some ([.head [.node .arguments (e :: more)] u.asOperator], true, rest')
              else if c.region = .parens && u.isMark ")" &&
                  (match rest' with | v :: _ => v.isMark "->" || v.isWord "when" | [] => false) then
                some ([.plain (.node .arguments (e :: more))], false, rest)
              else some ([.plain (.node .error (e :: more))], false, rest)
            | [] => some ([.plain (.node .error (e :: more))], false, rest)
          else some ([.plain e], false, rest)
        | [] => some ([.plain e], false, rest)

def argumentList : Nat → Context → List Spaced → List Draft × List Spaced
  | 0, _, ts => ([], ts)
  | _ + 1, _, [] => ([], [])
  | fuel + 1, c, s :: r =>
    if s.isMark "," then
      if startsPair r then
        let (ks, rest) := pairs fuel c r
        ([s.mark, ks], rest)
      else match expression fuel c 0 r with
        | some (e, rest) =>
          let (more, rest) := argumentList fuel c rest
          (s.mark :: e :: more, rest)
        | none => ([s.mark, missing], r)
    else ([], s :: r)

def pairs : Nat → Context → List Spaced → Draft × List Spaced
  | 0, _, ts => (missing, ts)
  | fuel + 1, c, ts =>
    let (p, rest) := pair fuel c ts
    let (more, rest) := morePairs fuel c rest
    (.node .keywords (p :: more), rest)

def morePairs : Nat → Context → List Spaced → List Draft × List Spaced
  | 0, _, ts => ([], ts)
  | _ + 1, _, [] => ([], [])
  | fuel + 1, c, s :: r =>
    if s.isMark "," && startsPair r then
      let (p, rest) := pair fuel c r
      let (more, rest) := morePairs fuel c rest
      (s.mark :: p :: more, rest)
    else ([], s :: r)

def pair : Nat → Context → List Spaced → Draft × List Spaced
  | 0, _, ts => (missing, ts)
  | _ + 1, _, [] => (missing, [])
  | fuel + 1, c, s :: r =>
    let (key, rest) :=
      if s.token.kind = .keyword then (s.draft .keyword, r)
      else
        let (q, rest) := quoted fuel .keyword c s r
        match rest with
        | t :: rest => (Draft.node .keyword [q, t.mark], rest)
        | [] => (q, [])
    match expression fuel c 0 rest with
    | some (e, rest) => (.node .pair [key, e], rest)
    | none => (.node .pair [key, missing], rest)

def expression : Nat → Context → Nat → List Spaced → Option (Draft × List Spaced)
  | 0, _, _, _ => none
  | fuel + 1, c, level, ts =>
    match operand fuel c ts with
    | none => none
    | some (left, rest) => some (binaries fuel c level left rest)

def binaries : Nat → Context → Nat → Draft → List Spaced → Draft × List Spaced
  | 0, _, _, left, ts => (left, ts)
  | fuel + 1, c, level, left, ts =>
    match nextOperator c ts with
    | none => (left, ts)
    | some ((opLevel, toRight), op, name, rest) =>
      if opLevel < level then (left, ts)
      else if (name = "|" || name = "when") && startsPair rest then
        let (ks, rest) := pairs fuel c rest
        binaries fuel c level (.node .binary (left :: op ++ [ks])) rest
      else match expression fuel c (if toRight then opLevel else opLevel + 1) rest with
        | some (right, rest) => binaries fuel c level (.node .binary (left :: op ++ [right])) rest
        | none => (.node .binary (left :: op ++ [missing]), rest)

def operand : Nat → Context → List Spaced → Option (Draft × List Spaced)
  | 0, _, _ => none
  | _ + 1, _, [] => none
  | fuel + 1, c, s :: r =>
    if s.isMark "&" then
      match r with
      | t :: u :: r' =>
        if t.token.kind = .operator && u.isMark "/" then
          match binaries fuel c captureLevel (t.draft .identifier) (u :: r') with
          | (e, rest) => some (.node .unary [s.asOperator, e], rest)
        else match expression fuel c captureLevel r with
          | some (e, rest) => some (.node .unary [s.asOperator, e], rest)
          | none => some (.node .unary [s.asOperator, missing], r)
      | _ => match expression fuel c captureLevel r with
        | some (e, rest) => some (.node .unary [s.asOperator, e], rest)
        | none => some (.node .unary [s.asOperator, missing], r)
    else if ["+", "-", "!", "^", "~~~"].any s.isMark || s.isWord "not" then
      match operand fuel c r with
      | some (e, rest) => some (.node .unary [s.asOperator, e], rest)
      | none => some (.node .unary [s.asOperator, missing], r)
    else if s.isMark "@" then
      match primary fuel c r with
      | some (e, rest) => some (attached fuel c (.node .unary [s.asOperator, e]) rest)
      | none => some (.node .unary [s.asOperator, missing], r)
    else match primary fuel c (s :: r) with
      | some (e, rest) => some (attached fuel c e rest)
      | none => none

def withDoBlock : Nat → Context → List Draft → List Spaced → Draft × List Spaced
  | 0, _, parts, ts => (.node .call parts, ts)
  | _ + 1, _, parts, [] => (.node .call parts, [])
  | fuel + 1, c, parts, s :: r =>
    if s.isWord "do" && !c.noDo then
      let (items, rest) := statements fuel (c.enter .doBlock) true false r
      let (sides, rest) := sideBlocks fuel (c.enter .doBlock) rest
      (.node .call (parts ++ [.node .doBlock (s.mark :: grouped items ++ sides)]), rest)
    else (.node .call parts, s :: r)

def sideBlocks : Nat → Context → List Spaced → List Draft × List Spaced
  | 0, _, ts => ([missing], ts)
  | _ + 1, _, [] => ([missing], [])
  | fuel + 1, c, s :: r =>
    if s.isWord "end" then ([s.mark], r)
    else if Region.sideWords.any s.isWord then
      let (items, rest) := statements fuel c true false r
      let (sides, rest) := sideBlocks fuel c rest
      (.node .sideBlock (s.mark :: grouped items) :: sides, rest)
    else ([missing], s :: r)

def callTail : Nat → Context → Bool → Draft → List Spaced → Draft × List Spaced
  | 0, _, _, target, ts => (target, ts)
  | _ + 1, _, bare, target, [] => (if bare then .node .call [target] else target, [])
  | fuel + 1, c, bare, target, s :: r =>
    if s.isMark "(" && !s.isApart then
      let (args, rest) := items fuel (c.enter (.bracket ")")) false true r
      withDoBlock fuel c [target, .node .arguments (s.mark :: args)] rest
    else if startsArgument c (s :: r) then
      let inner := { c with noDo := true }
      let (args, rest) :=
        if startsPair (s :: r) then
          let (ks, rest) := pairs fuel inner (s :: r)
          ([ks], rest)
        else match expression fuel inner 0 (s :: r) with
          | some (e, rest) =>
            let (more, rest) := argumentList fuel inner rest
            (e :: more, rest)
          | none => ([missing], s :: r)
      withDoBlock fuel c [target, .node .arguments args] rest
    else if bare || (s.isWord "do" && !c.noDo) then withDoBlock fuel c [target] (s :: r)
    else (target, s :: r)

def attached : Nat → Context → Draft → List Spaced → Draft × List Spaced
  | 0, _, e, ts => (e, ts)
  | _ + 1, _, e, [] => (e, [])
  | fuel + 1, c, e, s :: r =>
    if s.isMark "." then
      match r with
      | [] => (.node .dot [e, s.asOperator, missing], [])
      | t :: r' =>
        if t.token.kind = .identifier then
          let (call, rest) :=
            callTail fuel c true (.node .dot [e, s.asOperator, t.draft .identifier]) r'
          attached fuel c call rest
        else if t.token.kind = .moduleName then
          attached fuel c (.node .dot [e, s.asOperator, t.draft .moduleName]) r'
        else if t.isMark "(" then
          let (args, rest) := items fuel (c.enter (.bracket ")")) false true r'
          let (call, rest) :=
            withDoBlock fuel c [.node .dot [e, s.asOperator], .node .arguments (t.mark :: args)]
              rest
          attached fuel c call rest
        else if t.isMark "\x7b" then
          let (parts, rest) := items fuel (c.enter (.bracket "\x7d")) true true r'
          attached fuel c (.node .dot [e, s.asOperator, .node .tuple (t.mark :: parts)]) rest
        else if t.token.kind = .openQuote then
          let (q, rest) := quoted fuel .string c t r'
          let (call, rest) := callTail fuel c true (.node .dot [e, s.asOperator, q]) rest
          attached fuel c call rest
        else if t.token.kind = .operator then
          let (call, rest) :=
            callTail fuel c true (.node .dot [e, s.asOperator, t.draft .operator]) r'
          attached fuel c call rest
        else (.node .dot [e, s.asOperator, missing], r)
    else if s.isMark "[" && !s.isApart then
      let (parts, rest) := items fuel (c.enter (.bracket "]")) false true r
      attached fuel c (.node .access (e :: s.mark :: parts)) rest
    else if s.isMark "(" && !s.isApart && (match e with | .node .call _ => true | _ => false) then
      let (args, rest) := items fuel (c.enter (.bracket ")")) false true r
      let (call, rest) := withDoBlock fuel c [e, .node .arguments (s.mark :: args)] rest
      attached fuel c call rest
    else (e, s :: r)

def primary : Nat → Context → List Spaced → Option (Draft × List Spaced)
  | 0, _, _ => none
  | _ + 1, _, [] => none
  | fuel + 1, c, s :: r =>
    match s.token.kind with
    | .identifier =>
      if c.closes s then none
      else if ["true", "false", "nil"].any s.isWord then some (s.draft .atom, r)
      else if s.isWord "fn" then
        let (items, rest) := statements fuel (c.enter .function) true false r
        let parts := match items with
          | .head _ _ :: _ => grouped items
          | _ => missing :: grouped items
        match rest with
        | t :: rest' =>
          if t.isWord "end" then some (.node .function (s.mark :: parts ++ [t.mark]), rest')
          else some (.node .function (s.mark :: parts ++ [missing]), rest)
        | [] => some (.node .function (s.mark :: parts ++ [missing]), [])
      else some (callTail fuel c false (s.draft .identifier) r)
    | .moduleName => some (s.draft .moduleName, r)
    | .number => some (s.draft .number, r)
    | .char => some (s.draft .char, r)
    | .atom => some (s.draft .atom, r)
    | .atomMark =>
      match r with
      | t :: r' =>
        let (q, rest) := quoted fuel .atom c t r'
        some (.node .atom [s.mark, q], rest)
      | [] => some (.node .atom [s.mark, missing], [])
    | .openQuote =>
      some (quoted fuel (if s.token.text.head? = some '"' then .string else .charlist) c s r)
    | .sigilOpen =>
      let (q, rest) := quoted fuel .sigil c s r
      match rest, q with
      | t :: rest', .node .sigil parts =>
        if t.token.kind = .modifiers then some (.node .sigil (parts ++ [t.mark]), rest')
        else some (q, rest)
      | _, _ => some (q, rest)
    | .punctuation =>
      if s.isMark "(" then
        let (items, rest) := statements fuel (c.enter .parens) true false r
        match rest with
        | t :: rest' =>
          if t.isMark ")" then some (.node .block (s.mark :: grouped items ++ [t.mark]), rest')
          else some (.node .block (s.mark :: grouped items ++ [missing]), rest)
        | [] => some (.node .block (s.mark :: grouped items ++ [missing]), [])
      else if s.isMark "[" then
        let (parts, rest) := items fuel (c.enter (.bracket "]")) true true r
        some (.node .list (s.mark :: parts), rest)
      else if s.isMark "\x7b" then
        let (parts, rest) := items fuel (c.enter (.bracket "\x7d")) true true r
        some (.node .tuple (s.mark :: parts), rest)
      else if s.isMark "<<" then
        let (parts, rest) := items fuel (c.enter (.bracket ">>")) true true r
        some (.node .bitstring (s.mark :: parts), rest)
      else if s.isMark "%" then
        match r with
        | t :: r' =>
          if t.isMark "\x7b" then
            let (parts, rest) := items fuel (c.enter (.bracket "\x7d")) true true r'
            some (.node .map (s.mark :: t.mark :: parts), rest)
          else match structName fuel c r with
            | (name, u :: rest) =>
              if u.isMark "\x7b" then
                let (parts, rest) := items fuel (c.enter (.bracket "\x7d")) true true rest
                some (.node .map (s.mark :: name ++ u.mark :: parts), rest)
              else some (.node .map (s.mark :: name ++ [missing]), u :: rest)
            | (name, []) => some (.node .map (s.mark :: name ++ [missing]), [])
        | [] => some (.node .map [s.mark, missing], [])
      else none
    | .operator =>
      if s.isMark "..." then some (s.draft .identifier, r)
      else if s.isMark ".." then some (s.draft .operator, r)
      else none
    | _ => none

def structName : Nat → Context → List Spaced → List Draft × List Spaced
  | 0, _, ts => ([], ts)
  | _ + 1, _, [] => ([], [])
  | fuel + 1, c, s :: r =>
    if s.token.kind = .moduleName then ([s.draft .moduleName], r)
    else if s.token.kind = .identifier then ([s.draft .identifier], r)
    else if s.isMark "^" || s.isMark "@" then
      let (name, rest) := structName fuel c r
      ([.node .unary (s.asOperator :: name)], rest)
    else ([], s :: r)

def quoted : Nat → Kind → Context → Spaced → List Spaced → Draft × List Spaced
  | 0, k, _, s, ts => (.node k [s.mark, missing], ts)
  | fuel + 1, k, c, s, ts =>
    let (parts, rest) := quotedParts fuel c ts
    (.node k (s.mark :: parts), rest)

def quotedParts : Nat → Context → List Spaced → List Draft × List Spaced
  | 0, _, ts => ([missing], ts)
  | _ + 1, _, [] => ([missing], [])
  | fuel + 1, c, s :: r =>
    match s.token.kind with
    | .closeQuote | .sigilClose => ([s.mark], r)
    | .content =>
      let (more, rest) := quotedParts fuel c r
      (s.draft .content :: more, rest)
    | .escape =>
      let (more, rest) := quotedParts fuel c r
      (s.draft .escape :: more, rest)
    | .interpolationOpen =>
      let (items, rest) := statements fuel (c.enter .interpolation) true false r
      match rest with
      | t :: rest' =>
        if t.token.kind = .interpolationClose then
          let (more, rest) := quotedParts fuel c rest'
          (.node .interpolation (s.mark :: grouped items ++ [t.mark]) :: more, rest)
        else ([.node .interpolation (s.mark :: grouped items ++ [missing]), missing], rest)
      | [] => ([.node .interpolation (s.mark :: grouped items ++ [missing]), missing], [])
    | _ =>
      let (more, rest) := quotedParts fuel c r
      (misplaced s :: more, rest)

def items : Nat → Context → Bool → Bool → List Spaced → List Draft × List Spaced
  | 0, _, _, _, ts => ([missing], ts)
  | _ + 1, _, _, _, [] => ([missing], [])
  | fuel + 1, c, trailing, fresh, s :: r =>
    if c.closes s then ([s.mark], r)
    else if c.outerCloses s then ([missing], s :: r)
    else if s.isMark "," then
      let (more, rest) := items fuel c trailing true r
      (misplaced s :: more, rest)
    else if !fresh then
      let (more, rest) := items fuel c trailing true r
      (misplaced s :: more, rest)
    else if startsPair (s :: r) then
      let (ks, rest) := pairs fuel c (s :: r)
      match rest with
      | t :: rest' =>
        if t.isMark "," then
          match rest' with
          | u :: _ =>
            if c.closes u then
              let (more, rest) := items fuel c trailing false rest'
              (ks :: t.mark :: more, rest)
            else
              let (more, rest) := items fuel c trailing true rest'
              (ks :: misplaced t :: more, rest)
          | [] => ([ks, t.mark, missing], [])
        else
          let (more, rest) := items fuel c trailing false rest
          (ks :: more, rest)
      | [] => ([ks, missing], [])
    else match expression fuel c 0 (s :: r) with
      | none =>
        let (more, rest) := items fuel c trailing true r
        (misplaced s :: more, rest)
      | some (e, rest) =>
        match rest with
        | t :: rest' =>
          if t.isMark "," then
            let stray := match rest' with
              | u :: _ => c.closes u && !trailing
              | [] => false
            let (more, rest) := items fuel c trailing true rest'
            (e :: (if stray then misplaced t else t.mark) :: more, rest)
          else
            let (more, rest) := items fuel c trailing false rest
            (e :: more, rest)
        | [] => ([e, missing], [])

end

end ConfigKeeper.Elixir
