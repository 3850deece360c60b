import ConfigKeeper.Text.Cursor
import ConfigKeeper.Text.Utf8
import ConfigKeeper.Yaml.Basic

/-!
The tokens of YAML texts. Indentation becomes tokens too: a column further right begins a block, and
one further left ends it. That a scalar was the key of a pair shows only at the colon after it, so
every place where such a key may have begun is remembered and the token of the key is put in there
later.
-/

namespace ConfigKeeper.Yaml

inductive Token
  | streamEnd
  | directive (name : String) (arguments : List String)
  | documentStart
  | documentEnd
  | sequenceStart
  | mappingStart
  | blockEnd
  | entry
  | key
  | value
  | flowSequenceStart
  | flowSequenceEnd
  | flowMappingStart
  | flowMappingEnd
  | flowEntry
  | alias (name : String)
  | anchor (name : String)
  | tag (handle : Option String) (suffix : String)
  | scalar (plain : Bool) (text : String)
deriving DecidableEq, Repr

inductive Reason
  | unprintable
  | unexpectedCharacter
  | keyWithoutColon
  | entryNotAllowed
  | keyNotAllowed
  | valueNotAllowed
  | directive
  | name
  | tag
  | blockHeader
  | escape
  | openString
  | documentInString
  | content
  | handle
  | unknownAlias
  | repeatedAnchor
  | severalDocuments
  | unhashableKey
  | merge
  | unknownTag
  | shape
  | binary
  | unreadable (m : Misfit)
deriving DecidableEq, Repr

structure Fault where
  reason : Reason
  position : Nat
deriving DecidableEq, Repr

def Reason.message : Reason → String
  | .unprintable => "special characters are not allowed"
  | .unexpectedCharacter => "found a character that cannot start any token"
  | .keyWithoutColon => "could not find expected ':'"
  | .entryNotAllowed => "sequence entries are not allowed here"
  | .keyNotAllowed => "mapping keys are not allowed here"
  | .valueNotAllowed => "mapping values are not allowed here"
  | .directive => "found a malformed directive"
  | .name => "expected a name of letters and digits"
  | .tag => "found a malformed tag"
  | .blockHeader => "expected indentation indicators, a comment or a line break"
  | .escape => "found unknown escape character"
  | .openString => "found unexpected end of stream"
  | .documentInString => "found unexpected document separator"
  | .content => "did not find the expected node"
  | .handle => "found undefined tag handle"
  | .unknownAlias => "found undefined alias"
  | .repeatedAnchor => "found duplicate anchor"
  | .severalDocuments => "expected a single document in the stream"
  | .unhashableKey => "found unhashable key"
  | .merge => "expected a mapping or list of mappings for merging"
  | .unknownTag => "could not determine a constructor for the tag"
  | .shape => "expected a node of another shape"
  | .binary => "failed to decode base64 data"
  | .unreadable _ => "found a value that its tag does not allow"

def Fault.message (f : Fault) (s : List Char) : String :=
  f.reason.message ++ "\n  in line " ++ toString (Text.lineAt s f.position) ++ ", column " ++
    toString (Text.columnAt s f.position)

/-- Stands for the end of a text; it is no printable character. -/
def nul : Char := '\x00'

def isPrintable (c : Char) : Bool :=
  let n := c.toNat
  n == 9 || n == 10 || n == 13 || (0x20 ≤ n && n ≤ 0x7e) || n == 0x85 || (0xa0 ≤ n && n ≤ 0xd7ff) ||
    (0xe000 ≤ n && n ≤ 0xfffd) || 0x10000 ≤ n

def isBreak (c : Char) : Bool :=
  c = '\n' || c = '\r' || c = '\x85' || c = '\u2028' || c = '\u2029'

def isBreakOrEnd (c : Char) : Bool := isBreak c || c = nul

def isSpaceOrEnd (c : Char) : Bool := isBreakOrEnd c || c = ' '

def isBlankOrEnd (c : Char) : Bool := isSpaceOrEnd c || c = '\t'

def isNameChar (c : Char) : Bool :=
  ('0' ≤ c && c ≤ '9') || ('A' ≤ c && c ≤ 'Z') || ('a' ≤ c && c ≤ 'z') || c = '-' || c = '_'

/-- A place where the key of a pair may have begun. A required one must turn out to be a key. -/
structure OpenKey where
  token : Nat
  required : Bool
  position : Nat
  line : Nat
  column : Nat
deriving DecidableEq, Repr

/-- The scanner's state. `found` holds the tokens with the last one first, `count` their number;
`openKeys` the open key of each level of brackets. -/
structure Scanner where
  position : Nat
  rest : List Char
  line : Nat
  column : Nat
  level : Nat
  indent : Int
  indents : List Int
  found : List Token
  count : Nat
  keyAllowed : Bool
  openKeys : List (Nat × OpenKey)

namespace Scanner

def start (s : List Char) : Scanner := ⟨0, s, 0, 0, 0, -1, [], [], 0, true, []⟩

def at_ (s : Scanner) (n : Nat) : Char := (s.rest.drop n).headD nul

def next (s : Scanner) : Char := s.at_ 0

def fail {α : Type} (s : Scanner) (reason : Reason) : Except Fault α := .error ⟨reason, s.position⟩

/-- Passes one character. A carriage return before a line feed does not end a line. -/
def forwardOne (s : Scanner) : Scanner :=
  match s.rest with
  | [] => s
  | c :: r =>
    let ends := isBreak c && !(c = '\r' && r.head? = some '\n')
    { s with
      position := s.position + 1
      rest := r
      line := if ends then s.line + 1 else s.line
      column := if ends then 0 else if c = '\ufeff' then s.column else s.column + 1 }

def forward : Nat → Scanner → Scanner
  | 0, s => s
  | n + 1, s => forward n s.forwardOne

def takeWhile (s : Scanner) (p : Char → Bool) : List Char × Scanner :=
  let taken := s.rest.takeWhile p
  (taken, forward taken.length s)

def skipWhile (s : Scanner) (p : Char → Bool) : Scanner := (s.takeWhile p).2

def lineBreak (s : Scanner) : List Char × Scanner :=
  let c := s.next
  if c = '\r' && s.at_ 1 = '\n' then (['\n'], forward 2 s)
  else if c = '\r' || c = '\n' || c = '\x85' then (['\n'], s.forwardOne)
  else if c = '\u2028' || c = '\u2029' then ([c], s.forwardOne)
  else ([], s)

def add (s : Scanner) (t : Token) : Scanner :=
  { s with found := t :: s.found, count := s.count + 1 }

def insert (s : Scanner) (place : Nat) (t : Token) : Scanner :=
  let later := s.count - place
  { s with found := s.found.take later ++ t :: s.found.drop later, count := s.count + 1 }

def isDocumentMark (s : Scanner) : Bool :=
  (Text.startsWith ['-', '-', '-'] s.rest || Text.startsWith ['.', '.', '.'] s.rest) &&
    isBlankOrEnd (s.at_ 3)

def documentMarkAt (s : Scanner) (word : List Char) : Bool :=
  s.column = 0 && Text.startsWith word s.rest && isBlankOrEnd (s.at_ 3)

/- Open keys. -/

def dropOpenKey (s : Scanner) : Except Fault Scanner :=
  match s.openKeys.lookup s.level with
  | some k =>
    if k.required then .error ⟨.keyWithoutColon, k.position⟩
    else .ok { s with openKeys := s.openKeys.filter fun e => e.1 != s.level }
  | none => .ok s

def openKey (s : Scanner) : Except Fault Scanner :=
  if s.keyAllowed then do
    let s ← s.dropOpenKey
    let required := s.level = 0 && s.indent = (s.column : Int)
    let place := (s.level, ⟨s.count, required, s.position, s.line, s.column⟩)
    .ok { s with openKeys := place :: s.openKeys }
  else .ok s

def keyReach : Nat := 1024

def dropStaleKeys (s : Scanner) : Except Fault Scanner :=
  let isStale (k : OpenKey) : Bool := k.line != s.line || keyReach < s.position - k.position
  match s.openKeys.find? fun e => isStale e.2 && e.2.required with
  | some (_, k) => .error ⟨.keyWithoutColon, k.position⟩
  | none => .ok { s with openKeys := s.openKeys.filter fun e => !isStale e.2 }

/- Indentation. -/

def unwindFrom (column : Int) : List Int → Scanner → Scanner
  | [], s => s
  | outer :: more, s =>
    if column < s.indent then
      unwindFrom column more { s.add .blockEnd with indent := outer, indents := more }
    else s

def unwind (s : Scanner) (column : Int) : Scanner :=
  if s.level = 0 then unwindFrom column s.indents s else s

def indentTo (s : Scanner) (column : Int) : Option Scanner :=
  if s.indent < column then some { s with indents := s.indent :: s.indents, indent := column }
  else none

/- Between tokens. -/

def skipLines : Nat → Scanner → Scanner
  | 0, s => s
  | fuel + 1, s =>
    let s := s.skipWhile (· = ' ')
    let s := if s.next = '#' then s.skipWhile fun c => !isBreak c else s
    match s.lineBreak with
    | ([], s) => s
    | (_, s) => skipLines fuel (if s.level = 0 then { s with keyAllowed := true } else s)

def toNextToken (s : Scanner) : Scanner :=
  let s := if s.position = 0 && s.next = '\ufeff' then s.forwardOne else s
  skipLines (s.rest.length + 1) s

def restOfLine (s : Scanner) (reason : Reason) : Except Fault Scanner :=
  let s := s.skipWhile (· = ' ')
  let s := if s.next = '#' then s.skipWhile fun c => !isBreak c else s
  if isBreakOrEnd s.next then .ok s.lineBreak.2 else s.fail reason

/- Directives, anchors and tags. -/

def name (s : Scanner) (reason : Reason) : Except Fault (String × Scanner) :=
  let (cs, s) := s.takeWhile isNameChar
  if cs.isEmpty then s.fail reason else .ok (String.ofList cs, s)

def isDigit (c : Char) : Bool := '0' ≤ c && c ≤ '9'

def version (s : Scanner) : Except Fault (List String × Scanner) :=
  let (major, s) := (s.skipWhile (· = ' ')).takeWhile isDigit
  if major.isEmpty || s.next != '.' then s.fail .directive
  else
    let (minor, s) := s.forwardOne.takeWhile isDigit
    if minor.isEmpty || !isSpaceOrEnd s.next then s.fail .directive
    else .ok ([String.ofList major, String.ofList minor], s)

def tagHandle (s : Scanner) (reason : Reason) : Except Fault (String × Scanner) :=
  if s.next != '!' then s.fail reason
  else
    let s := s.forwardOne
    if s.next = ' ' then .ok ("!", s)
    else
      let (cs, s) := s.takeWhile isNameChar
      if s.next = '!' then .ok (String.ofList ('!' :: cs ++ ['!']), s.forwardOne) else s.fail reason

def isUriChar (c : Char) : Bool := isNameChar c || ";/?:@&=+$,.!~*'()[]%".toList.contains c

def hexByte? (a b : Char) : Option UInt8 :=
  match Text.hexValue? a, Text.hexValue? b with
  | some x, some y => some (UInt8.ofNat (x * 16 + y))
  | _, _ => none

def escapedBytes : List Char → Option (List UInt8 × List Char)
  | '%' :: a :: b :: r =>
    match hexByte? a b, escapedBytes r with
    | some x, some (xs, r) => some (x :: xs, r)
    | _, _ => none
  | '%' :: _ => none
  | r => some ([], r)

def unescapeUri : Nat → List Char → Option (List Char)
  | 0, _ => none
  | fuel + 1, s =>
    match s with
    | [] => some []
    | '%' :: _ =>
      (escapedBytes s).bind fun (bytes, r) => match Text.decodeUtf8 bytes with
        | .ok cs => (unescapeUri fuel r).map (cs ++ ·)
        | .error _ => none
    | c :: r => (unescapeUri fuel r).map (c :: ·)

def uri (s : Scanner) (reason : Reason) : Except Fault (String × Scanner) :=
  let (cs, after) := s.takeWhile isUriChar
  if cs.isEmpty then s.fail reason
  else match unescapeUri (cs.length + 1) cs with
    | some cs => .ok (String.ofList cs, after)
    | none => s.fail reason

def directiveArguments (name : String) (s : Scanner) : Except Fault (List String × Scanner) :=
  if name = "YAML" then s.version
  else if name = "TAG" then do
    let (handle, s) ← (s.skipWhile (· = ' ')).tagHandle .directive
    if s.next != ' ' then s.fail .directive
    else
      let (start, s) ← (s.skipWhile (· = ' ')).uri .directive
      if isSpaceOrEnd s.next then .ok ([handle, start], s) else s.fail .directive
  else .ok ([], s.skipWhile fun c => !isBreak c)

def directive (s : Scanner) : Except Fault Scanner := do
  let s ← (s.unwind (-1)).dropOpenKey
  let (name, s) ← s.forwardOne.name .directive
  if !isSpaceOrEnd s.next then s.fail .directive
  else
    let (arguments, s) ← directiveArguments name s
    let s ← s.restOfLine .directive
    .ok ({ s with keyAllowed := false }.add (.directive name arguments))

def mayFollowName (c : Char) : Bool := isBlankOrEnd c || "?:,]\x7d%@\x60".toList.contains c

def named (s : Scanner) (token : String → Token) : Except Fault Scanner := do
  let s ← s.openKey
  let (name, s) ← s.forwardOne.name .name
  if mayFollowName s.next then .ok ({ s with keyAllowed := false }.add (token name))
  else s.fail .name

def hasHandle (s : Scanner) : Bool :=
  ((s.rest.drop 1).takeWhile fun c => !isSpaceOrEnd c).contains '!'

def tagParts (s : Scanner) : Except Fault (Option String × String × Scanner) :=
  if s.at_ 1 = '<' then do
    let (suffix, s) ← (forward 2 s).uri .tag
    if s.next = '>' then .ok (none, suffix, s.forwardOne) else s.fail .tag
  else if isBlankOrEnd (s.at_ 1) then .ok (none, "!", s.forwardOne)
  else do
    let (handle, s) ← if s.hasHandle then s.tagHandle .tag else .ok ("!", s.forwardOne)
    let (suffix, s) ← s.uri .tag
    .ok (some handle, suffix, s)

def tag (s : Scanner) : Except Fault Scanner := do
  let s ← s.openKey
  let (handle, suffix, s) ← s.tagParts
  if isSpaceOrEnd s.next then .ok ({ s with keyAllowed := false }.add (.tag handle suffix))
  else s.fail .tag

/- Scalars. -/

def quotedBreaks : Nat → Scanner → Except Fault (List Char × Scanner)
  | 0, s => .ok ([], s)
  | fuel + 1, s =>
    if s.isDocumentMark then s.fail .documentInString
    else
      let s := s.skipWhile fun c => c = ' ' || c = '\t'
      match s.lineBreak with
      | ([], s) => .ok ([], s)
      | (b, s) => do
        let (more, s) ← quotedBreaks fuel s
        .ok (b ++ more, s)

/-- A single line break counts as a space; of several the first is dropped. -/
def foldBreaks (first more : List Char) : List Char :=
  if first != ['\n'] then first ++ more
  else if more.isEmpty then [' ']
  else more

def quotedBlanks (s : Scanner) : Except Fault (List Char × Scanner) :=
  let (blanks, s) := s.takeWhile fun c => c = ' ' || c = '\t'
  if s.next = nul then s.fail .openString
  else match s.lineBreak with
    | ([], s) => .ok (blanks, s)
    | (first, s) => do
      let (more, s) ← quotedBreaks (s.rest.length + 1) s
      .ok (foldBreaks first more, s)

def escapes : List (Char × Char) := [
  ('0', '\x00'), ('a', '\x07'), ('b', '\x08'), ('t', '\t'), ('\t', '\t'), ('n', '\n'),
  ('v', '\x0b'), ('f', '\x0c'), ('r', '\r'), ('e', '\x1b'), (' ', ' '), ('"', '"'), ('\\', '\\'),
  ('/', '/'), ('N', '\x85'), ('_', '\xa0'), ('L', '\u2028'), ('P', '\u2029')]

def hexEscapes : List (Char × Nat) := [('x', 2), ('u', 4), ('U', 8)]

def hexNumber? (cs : List Char) : Option Nat :=
  cs.foldl (fun n c => n.bind fun n => (Text.hexValue? c).map fun d => n * 16 + d) (some 0)

def escape (s : Scanner) : Except Fault (List Char × Scanner) :=
  let c := s.next
  match escapes.lookup c, hexEscapes.lookup c with
  | some x, _ => .ok ([x], s.forwardOne)
  | none, some size =>
    let digits := (s.rest.drop 1).take size
    match hexNumber? digits with
    | some n =>
      if digits.length != size then s.fail .escape
      else if n.isValidChar then .ok ([Char.ofNat n], forward (size + 1) s)
      else s.fail (if 0x10ffff < n then .unreadable (.character n) else .escape)
    | none => s.fail .escape
  | none, none =>
    match s.lineBreak with
    | ([], s) => s.fail .escape
    | (_, s) => quotedBreaks (s.rest.length + 1) s

def isPlainInQuotes (c : Char) : Bool := !isBlankOrEnd c && c != '\'' && c != '"' && c != '\\'

def quotedBody (quote : Char) : Nat → List Char → Scanner → Except Fault (List Char × Scanner)
  | 0, _, s => s.fail .openString
  | fuel + 1, done, s =>
    let (cs, s) := s.takeWhile isPlainInQuotes
    let done := done ++ cs
    let c := s.next
    if quote = '\'' && c = '\'' && s.at_ 1 = '\'' then
      quotedBody quote fuel (done ++ [c]) (forward 2 s)
    else if c = quote then .ok (done, s.forwardOne)
    else if c = '\'' || c = '"' || (c = '\\' && quote = '\'') then
      quotedBody quote fuel (done ++ [c]) s.forwardOne
    else if c = '\\' then do
      let (cs, s) ← s.forwardOne.escape
      quotedBody quote fuel (done ++ cs) s
    else do
      let (cs, s) ← s.quotedBlanks
      quotedBody quote fuel (done ++ cs) s

def quotedScalar (quote : Char) (s : Scanner) : Except Fault Scanner := do
  let s ← s.openKey
  let (cs, s) ← quotedBody quote (s.rest.length + 1) [] s.forwardOne
  .ok ({ s with keyAllowed := false }.add (.scalar false (String.ofList cs)))

def plainBreaks : Nat → List Char → Scanner → Option (List Char) × Scanner
  | 0, done, s => (some done, s)
  | fuel + 1, done, s =>
    let s := s.skipWhile (· = ' ')
    match s.lineBreak with
    | ([], s) => (some done, s)
    | (b, s) => if s.isDocumentMark then (none, s) else plainBreaks fuel (done ++ b) s

def plainBlanks (s : Scanner) : List Char × Scanner :=
  let (blanks, s) := s.takeWhile (· = ' ')
  match s.lineBreak with
  | ([], s) => (blanks, s)
  | (first, s) =>
    let s := { s with keyAllowed := true }
    if s.isDocumentMark then ([], s)
    else match plainBreaks (s.rest.length + 1) [] s with
      | (none, s) => ([], s)
      | (some more, s) => (foldBreaks first more, s)

def endsPlain (inBrackets : Bool) (c after : Char) : Bool :=
  isBlankOrEnd c ||
    (c = ':' && (isBlankOrEnd after || (inBrackets && ",[]\x7b\x7d".toList.contains after))) ||
    (inBrackets && ",?[]\x7b\x7d".toList.contains c)

def plainLength (inBrackets : Bool) : List Char → Nat
  | [] => 0
  | c :: r => if endsPlain inBrackets c (r.headD nul) then 0 else plainLength inBrackets r + 1

def plainBody (indent : Int) : Nat → List Char → List Char → Scanner → List Char × Scanner
  | 0, done, _, s => (done, s)
  | fuel + 1, done, blanks, s =>
    let size := if s.next = '#' then 0 else plainLength (s.level != 0) s.rest
    if size = 0 then (done, s)
    else
      let done := done ++ blanks ++ s.rest.take size
      let (blanks, s) := (forward size { s with keyAllowed := false }).plainBlanks
      if blanks.isEmpty || s.next = '#' || (s.level = 0 && (s.column : Int) < indent) then (done, s)
      else plainBody indent fuel done blanks s

def plainScalar (s : Scanner) : Except Fault Scanner := do
  let s ← s.openKey
  let (cs, s) := plainBody (s.indent + 1) (s.rest.length + 1) [] [] { s with keyAllowed := false }
  .ok (s.add (.scalar true (String.ofList cs)))

inductive Chomping
  | strip
  | clip
  | keep
deriving DecidableEq, Repr

def chomping? (c : Char) : Option Chomping :=
  if c = '+' then some .keep else if c = '-' then some .strip else none

def increment (s : Scanner) : Except Fault (Option Nat × Scanner) :=
  if isDigit s.next then
    if s.next = '0' then s.fail .blockHeader else .ok (some (s.next.toNat - 48), s.forwardOne)
  else .ok (none, s)

def blockHeader (s : Scanner) : Except Fault (Chomping × Option Nat × Scanner) := do
  let (chomping, extra, s) ← match chomping? s.next with
    | some c => do
      let (extra, s) ← s.forwardOne.increment
      pure (c, extra, s)
    | none => do
      let (extra, s) ← s.increment
      match extra, chomping? s.next with
      | some n, some c => pure (c, some n, s.forwardOne)
      | extra, _ => pure (.clip, extra, s)
  if !isSpaceOrEnd s.next then s.fail .blockHeader
  else
    let s ← s.restOfLine .blockHeader
    pure (chomping, extra, s)

def blockLead : Nat → List Char → Nat → Scanner → List Char × Nat × Scanner
  | 0, done, widest, s => (done, widest, s)
  | fuel + 1, done, widest, s =>
    let s := s.skipWhile (· = ' ')
    let widest := max widest s.column
    match s.lineBreak with
    | ([], s) => (done, widest, s)
    | (b, s) => blockLead fuel (done ++ b) widest s

def skipSpacesTo (column : Nat) (s : Scanner) : Scanner :=
  forward (min (column - s.column) (s.rest.takeWhile (· = ' ')).length) s

def blockBreaks (column : Nat) : Nat → List Char → Scanner → List Char × Scanner
  | 0, done, s => (done, s)
  | fuel + 1, done, s =>
    match (s.skipSpacesTo column).lineBreak with
    | ([], s) => (done, s)
    | (b, s) => blockBreaks column fuel (done ++ b) s

def blockBody (folds : Bool) (chomping : Chomping) (column : Nat) :
    Nat → List Char → List Char → List Char → Scanner → List Char × Scanner
  | 0, done, _, _, s => (done, s)
  | fuel + 1, done, last, breaks, s =>
    let finish (last breaks : List Char) : List Char :=
      match chomping with
      | .strip => []
      | .clip => last
      | .keep => last ++ breaks
    if s.column = column && s.next != nul then
      let leads := s.next != ' ' && s.next != '\t'
      let (line, s) := s.takeWhile fun c => !isBreak c
      let done := done ++ breaks ++ line
      let (last, s) := s.lineBreak
      let (breaks, s) := blockBreaks column (s.rest.length + 1) [] s
      if s.column = column && s.next != nul then
        if folds && last = ['\n'] && leads && s.next != ' ' && s.next != '\t' then
          let done := if breaks.isEmpty then done ++ [' '] else done
          blockBody folds chomping column fuel done last breaks s
        else blockBody folds chomping column fuel (done ++ last) last breaks s
      else (done ++ finish last breaks, s)
    else (done ++ finish last breaks, s)

def blockScalar (folds : Bool) (s : Scanner) : Except Fault Scanner := do
  let s ← { s with keyAllowed := true }.dropOpenKey
  let (chomping, extra, s) ← s.forwardOne.blockHeader
  let least := max 1 (s.indent + 1).toNat
  let fuel := s.rest.length + 1
  let (column, breaks, s) := match extra with
    | some n =>
      let column := least + n - 1
      let (breaks, s) := blockBreaks column fuel [] s
      (column, breaks, s)
    | none =>
      let (breaks, widest, s) := blockLead fuel [] 0 s
      (max least widest, breaks, s)
  let (cs, s) := blockBody folds chomping column fuel [] [] breaks s
  .ok (s.add (.scalar false (String.ofList cs)))

/- Marks. -/

def streamEnd (s : Scanner) : Except Fault Scanner := do
  let s ← (s.unwind (-1)).dropOpenKey
  .ok (s.add .streamEnd)

def documentMark (s : Scanner) (t : Token) : Except Fault Scanner := do
  let s ← (s.unwind (-1)).dropOpenKey
  .ok ((forward 3 { s with keyAllowed := false }).add t)

def openBracket (s : Scanner) (t : Token) : Except Fault Scanner := do
  let s ← s.openKey
  .ok ({ s with level := s.level + 1, keyAllowed := true }.forwardOne.add t)

/-- A closing bracket without an opening one is found out by the reader of the tokens. -/
def closeBracket (s : Scanner) (t : Token) : Except Fault Scanner := do
  let s ← s.dropOpenKey
  .ok ({ s with level := s.level - 1, keyAllowed := false }.forwardOne.add t)

def comma (s : Scanner) : Except Fault Scanner := do
  let s ← s.dropOpenKey
  .ok ({ s with keyAllowed := true }.forwardOne.add .flowEntry)

def beginBlock (s : Scanner) (t : Token) : Scanner :=
  match s.indentTo s.column with
  | some s => s.add t
  | none => s

def dash (s : Scanner) : Except Fault Scanner :=
  if s.level = 0 && !s.keyAllowed then s.fail .entryNotAllowed
  else do
    let s := if s.level = 0 then s.beginBlock .sequenceStart else s
    let s ← s.dropOpenKey
    .ok ({ s with keyAllowed := true }.forwardOne.add .entry)

def questionMark (s : Scanner) : Except Fault Scanner :=
  if s.level = 0 && !s.keyAllowed then s.fail .keyNotAllowed
  else do
    let s := if s.level = 0 then s.beginBlock .mappingStart else s
    let s ← s.dropOpenKey
    .ok ({ s with keyAllowed := s.level = 0 }.forwardOne.add .key)

/-- The colon of a pair. An open key turns out to be the key of it. -/
def colon (s : Scanner) : Except Fault Scanner :=
  match s.openKeys.lookup s.level with
  | some k =>
    let s := { s with openKeys := s.openKeys.filter fun e => e.1 != s.level }
    let s := s.insert k.token .key
    let s := if s.level = 0 then
        match s.indentTo k.column with
        | some s => s.insert k.token .mappingStart
        | none => s
      else s
    .ok ({ s with keyAllowed := false }.forwardOne.add .value)
  | none =>
    if s.level = 0 && !s.keyAllowed then s.fail .valueNotAllowed
    else do
      let s := if s.level = 0 then s.beginBlock .mappingStart else s
      let s ← { s with keyAllowed := s.level = 0 }.dropOpenKey
      .ok (s.forwardOne.add .value)

def isIndicator (c : Char) : Bool := "-?:,[]\x7b\x7d#&*!|>'\"%@\x60".toList.contains c

def beginsPlain (s : Scanner) : Bool :=
  let c := s.next
  (!isBlankOrEnd c && !isIndicator c) ||
    (!isBlankOrEnd (s.at_ 1) && (c = '-' || (s.level = 0 && (c = '?' || c = ':'))))

def token (s : Scanner) : Except Fault Scanner :=
  let c := s.next
  let standsAlone := isBlankOrEnd (s.at_ 1)
  if c = '%' && s.column = 0 then s.directive
  else if s.documentMarkAt ['-', '-', '-'] then s.documentMark .documentStart
  else if s.documentMarkAt ['.', '.', '.'] then s.documentMark .documentEnd
  else if c = '[' then s.openBracket .flowSequenceStart
  else if c = '\x7b' then s.openBracket .flowMappingStart
  else if c = ']' then s.closeBracket .flowSequenceEnd
  else if c = '\x7d' then s.closeBracket .flowMappingEnd
  else if c = ',' then s.comma
  else if c = '-' && standsAlone then s.dash
  else if c = '?' && (s.level != 0 || standsAlone) then s.questionMark
  else if c = ':' && (s.level != 0 || standsAlone) then s.colon
  else if c = '*' then s.named .alias
  else if c = '&' then s.named .anchor
  else if c = '!' then s.tag
  else if c = '|' && s.level = 0 then s.blockScalar false
  else if c = '>' && s.level = 0 then s.blockScalar true
  else if c = '\'' || c = '"' then s.quotedScalar c
  else if s.beginsPlain then s.plainScalar
  else s.fail .unexpectedCharacter

def run : Nat → Scanner → Except Fault Scanner
  | 0, s => .ok s
  | fuel + 1, s => do
    let s ← s.toNextToken.dropStaleKeys
    let s := s.unwind s.column
    if s.next = nul then s.streamEnd
    else run fuel (← s.token)

end Scanner

def tokens (s : List Char) : Except Fault (List Token) :=
  match s.find? fun c => !isPrintable c with
  | some _ => .error ⟨.unprintable, (s.takeWhile isPrintable).length⟩
  | none => (Scanner.run (s.length + 2) (.start s)).map fun s => s.found.reverse

end ConfigKeeper.Yaml
