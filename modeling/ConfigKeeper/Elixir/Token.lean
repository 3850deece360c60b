import ConfigKeeper.Text.Hex
import ConfigKeeper.Text.Letters
import ConfigKeeper.Text.Split

/-!
Tokens of Elixir sources. The tokens of a source, white space and comments included, spell it from
its first to its last character.
-/

namespace ConfigKeeper.Elixir

inductive TokenKind
  | blank
  | comment
  | identifier
  | moduleName
  | number
  | char
  | atom
  | atomMark
  | keyword
  | keywordMark
  | operator
  | punctuation
  | openQuote
  | closeQuote
  | sigilOpen
  | sigilClose
  | modifiers
  | content
  | escape
  | interpolationOpen
  | interpolationClose
  | unknown
deriving DecidableEq, Repr

structure Token where
  kind : TokenKind
  text : List Char
deriving DecidableEq, Repr

/-- A quoted text that is being read: its closing delimiter, how often that is written, whether
escapes and interpolations count, whether it is a sigil, and whether the delimiter comes next. -/
structure Quote where
  closing : Char
  width : Nat
  interpolates : Bool
  isSigil : Bool
  ends : Bool
deriving DecidableEq, Repr

/-- `code` counts the braces that are open since the last interpolation began. -/
inductive Mode
  | code (braces : Nat)
  | quoted (q : Quote)
deriving DecidableEq, Repr

/-- One token: how many characters it takes, its kind, and the modes after it, innermost first. -/
structure Step where
  size : Nat
  kind : TokenKind
  modes : List Mode

def isSpace (c : Char) : Bool := c = ' ' || c = '\t' || c = '\n'

def blankSize : List Char → Nat
  | [] => 0
  | '\r' :: '\n' :: r => blankSize r + 2
  | '\\' :: '\n' :: r => blankSize r + 2
  | '\\' :: '\r' :: '\n' :: r => blankSize r + 3
  | c :: r => if isSpace c then blankSize r + 1 else 0

def isLowerStart (c : Char) : Bool := Text.isLowerLetter c || c = '_'

def isNameStart (c : Char) : Bool := isLowerStart c || Text.isUpperLetter c

def isNameRest (c : Char) : Bool := Text.continuesWord c || c = '_'

def nameSize (s : List Char) : Nat := (s.takeWhile isNameRest).length

def markedNameSize (s : List Char) : Nat :=
  let n := nameSize s
  match s.drop n with
  | '?' :: _ => n + 1
  | '!' :: _ => n + 1
  | _ => n

def labelSize (s : List Char) : Nat :=
  let n := (s.takeWhile fun c => isNameRest c || c = '@').length
  match s.drop n with
  | '?' :: _ => n + 1
  | '!' :: _ => n + 1
  | _ => n

def moduleNameSize : Nat → List Char → Nat
  | 0, _ => 0
  | fuel + 1, s =>
    let n := nameSize s
    let r := s.drop n
    let before := blankSize r
    match r.drop before with
    | '.' :: r =>
      let after := blankSize r
      match r.drop after with
      | c :: r' =>
        if Text.isUpperLetter c then n + before + 1 + after + moduleNameSize fuel (c :: r') else n
      | [] => n
    | _ => n

def digitRunSize (digit : Char → Bool) : List Char → Nat
  | c :: r =>
    if digit c then digitRunSize digit r + 1
    else match c, r with
      | '_', d :: r' => if digit d then digitRunSize digit r' + 2 else 0
      | _, _ => 0
  | [] => 0

def exponentSize : List Char → Nat
  | e :: r =>
    if e = 'e' || e = 'E' then
      match r with
      | '+' :: r => let n := digitRunSize Char.isDigit r; if n = 0 then 0 else n + 2
      | '-' :: r => let n := digitRunSize Char.isDigit r; if n = 0 then 0 else n + 2
      | r => let n := digitRunSize Char.isDigit r; if n = 0 then 0 else n + 1
    else 0
  | [] => 0

def numberSize (s : List Char) : Nat :=
  let based (digit : Char → Bool) (r : List Char) : Nat :=
    let n := digitRunSize digit r
    if n = 0 then 1 else n + 2
  match s with
  | '0' :: 'x' :: r => based Text.isHexDigit r
  | '0' :: 'b' :: r => based (fun c => c = '0' || c = '1') r
  | '0' :: 'o' :: r => based (fun c => '0' ≤ c && c ≤ '7') r
  | s =>
    let n := digitRunSize Char.isDigit s
    match s.drop n with
    | '.' :: r =>
      let f := digitRunSize Char.isDigit r
      if f = 0 then n else n + 1 + f + exponentSize (r.drop f)
    | _ => n

def operators : List (List Char) :=
  ["...", "&&&", "|||", "===", "!==", "<<<", ">>>", "<<~", "~>>", "<~>", "<|>", "^^^", "+++", "---",
    "~~~", "&&", "||", "==", "!=", "=~", "<=", ">=", "|>", "<~", "~>", "<-", "->", "++", "--", "<>",
    "**", "//", "..", "::", "=>", "\\\\", "+", "-", "*", "/", "<", ">", "=", "!", "&", "|", "^",
    "@", "."].map String.toList

def operatorSize (s : List Char) : Nat :=
  match operators.find? (Text.startsWith · s) with
  | some op => op.length
  | none => 0

def atomSymbolSize (s : List Char) : Nat :=
  match ["%\x7b\x7d", "<<>>", "\x7b\x7d", "%"].find? fun w => Text.startsWith w.toList s with
  | some w => w.length
  | none => operatorSize s

def bracedHexSize (s : List Char) : Nat :=
  let n := (s.takeWhile Text.isHexDigit).length
  if n != 0 && (s.drop n).head? = some '}' then n + 2 else 0

def escapeSize : List Char → Nat
  | '\\' :: mark :: '{' :: r =>
    if mark = 'x' || mark = 'u' then
      let n := bracedHexSize r
      if n = 0 then 0 else n + 2
    else 2
  | '\\' :: 'x' :: r =>
    let n := ((r.take 2).takeWhile Text.isHexDigit).length
    if n = 0 then 0 else n + 2
  | '\\' :: 'u' :: r => if ((r.take 4).takeWhile Text.isHexDigit).length = 4 then 6 else 0
  | '\\' :: _ :: _ => 2
  | _ => 0

def closingOf (c : Char) : Char :=
  ([('(', ')'), ('[', ']'), ('{', '}'), ('<', '>')].lookup c).getD c

def isSigilDelimiter (c : Char) : Bool :=
  c = '(' || c = '[' || c = '{' || c = '<' || c = '|' || c = '/' || c = '"' || c = '\''

def openingWidth (c : Char) (s : List Char) : Nat :=
  if (c = '"' || c = '\'') && Text.startsWith [c, c, c] s then 3 else 1

def isIndent (c : Char) : Bool := c = ' ' || c = '\t' || c = '\r'

/-- Size of plain text in a quoted text, and whether the closing delimiter of a heredoc follows it.
A heredoc ends only at the start of a line. -/
def contentSize (q : Quote) : List Char → Nat × Bool
  | [] => (0, false)
  | c :: r =>
    if c = '\x00' then (0, false)
    else if q.width = 3 && c = '\n' &&
        Text.startsWith (List.replicate 3 q.closing) (r.dropWhile isIndent) then
      (1 + (r.takeWhile isIndent).length, true)
    else if q.width = 1 && c = q.closing then (0, false)
    else if q.interpolates && c = '#' && r.head? = some '{' then (0, false)
    else if c = '\\' && !(q.width = 3 && r.head? = some '\n') &&
        (q.interpolates || r.head? = some q.closing) then (0, false)
    else
      let (n, ends) := contentSize q r
      (n + 1, ends)

def quotedStep (q : Quote) (below : List Mode) (s : List Char) : Step :=
  let close := if q.isSigil then TokenKind.sigilClose else .closeQuote
  if q.ends || (q.width = 1 && s.head? = some q.closing) then ⟨q.width, close, below⟩
  else if q.interpolates && Text.startsWith ['#', '{'] s then
    ⟨2, .interpolationOpen, .code 0 :: .quoted q :: below⟩
  else
    let (n, ends) := contentSize q s
    if 0 < n then ⟨n, .content, .quoted { q with ends := ends } :: below⟩
    else if 0 < escapeSize s then ⟨escapeSize s, .escape, .quoted q :: below⟩
    else ⟨1, .unknown, .quoted q :: below⟩

def sigilStep (modes : List Mode) (s : List Char) : Option Step :=
  match s with
  | '~' :: c :: r =>
    let names :=
      if c.isLower then 1
      else if c.isUpper then 1 + (r.takeWhile fun c => c.isUpper || c.isDigit).length
      else 0
    match (c :: r).drop names with
    | d :: r' =>
      if 0 < names && isSigilDelimiter d then
        let width := openingWidth d (d :: r')
        some ⟨1 + names + width, .sigilOpen,
          .quoted ⟨closingOf d, width, c.isLower, true, false⟩ :: modes⟩
      else none
    | [] => none
  | _ => none

def isPunctuation (c : Char) : Bool :=
  c = '(' || c = ')' || c = '[' || c = ']' || c = '{' || c = '}' || c = ',' || c = ';' || c = '%'

def colonFollows : List Char → Bool
  | ':' :: c :: _ => isSpace c || c = '\r'
  | _ => false

def codeStep (braces : Nat) (below : List Mode) : List Char → Step
  | [] => ⟨0, .unknown, .code braces :: below⟩
  | c :: r =>
    let s := c :: r
    let stay := Mode.code braces :: below
    let blank := blankSize s
    if 0 < blank then ⟨blank, .blank, stay⟩
    else if c = '#' then ⟨(s.takeWhile (· != '\n')).length, .comment, stay⟩
    else if c = '"' || c = '\'' then
      let width := openingWidth c s
      ⟨width, .openQuote, .quoted ⟨c, width, true, false, false⟩ :: stay⟩
    else if isNameStart c && colonFollows (s.drop (labelSize s)) then
      ⟨labelSize s + 1, .keyword, stay⟩
    else if Text.isUpperLetter c then ⟨moduleNameSize s.length s, .moduleName, stay⟩
    else if isLowerStart c then ⟨markedNameSize s, .identifier, stay⟩
    else if c.isDigit then ⟨numberSize s, .number, stay⟩
    else if c = '?' && !r.isEmpty then
      ⟨if r.head? = some '\\' then 1 + max 2 (escapeSize r) else 2, .char, stay⟩
    else if c = ':' && r.head? != some ':' then
      match r with
      | d :: _ =>
        if d = '"' || d = '\'' then ⟨1, .atomMark, stay⟩
        else if isNameStart d then ⟨1 + labelSize r, .atom, stay⟩
        else if 0 < atomSymbolSize r then ⟨1 + atomSymbolSize r, .atom, stay⟩
        else ⟨1, .unknown, stay⟩
      | [] => ⟨1, .unknown, stay⟩
    else match sigilStep stay s with
      | some step => step
      | none =>
        if Text.startsWith ['<', '<'] s && !Text.startsWith ['<', '<', '<'] s &&
            !Text.startsWith ['<', '<', '~'] s then ⟨2, .punctuation, stay⟩
        else if Text.startsWith ['>', '>'] s && !Text.startsWith ['>', '>', '>'] s then
          ⟨2, .punctuation, stay⟩
        else if c = '{' then ⟨1, .punctuation, .code (braces + 1) :: below⟩
        else if c = '}' then
          if braces = 0 then
            match below with
            | .quoted q :: more =>
              ⟨1, .interpolationClose, .quoted { q with ends := false } :: more⟩
            | _ => ⟨1, .punctuation, stay⟩
          else ⟨1, .punctuation, .code (braces - 1) :: below⟩
        else if isPunctuation c then ⟨1, .punctuation, stay⟩
        else
          let n := operatorSize s
          if n = 0 then ⟨1, .unknown, stay⟩
          else if colonFollows (s.drop n) && c != '.' then ⟨n + 1, .keyword, stay⟩
          else ⟨n, .operator, stay⟩

def afterQuoteStep (last : TokenKind) (modes : List Mode) (s : List Char) : Option Step :=
  match last with
  | .closeQuote => if colonFollows s then some ⟨1, .keywordMark, modes⟩ else none
  | .sigilClose =>
    let n := (s.takeWhile Char.isAlphanum).length
    if 0 < n then some ⟨n, .modifiers, modes⟩ else none
  | _ => none

def nextStep (last : TokenKind) (modes : List Mode) (s : List Char) : Step :=
  match afterQuoteStep last modes s with
  | some step => step
  | none => match modes with
    | .code braces :: below => codeStep braces below s
    | .quoted q :: below => quotedStep q below s
    | [] => codeStep 0 [] s

def tokensAux : Nat → TokenKind → List Mode → List Char → List Token
  | _, _, _, [] => []
  | 0, _, _, s => [⟨.unknown, s⟩]
  | fuel + 1, last, modes, s =>
    let step := nextStep last modes s
    ⟨step.kind, s.take step.size⟩ :: tokensAux fuel step.kind step.modes (s.drop step.size)

/-- A byte order mark at the start counts as white space. -/
def tokens (s : List Char) : List Token :=
  match s with
  | '\ufeff' :: r => ⟨.blank, ['\ufeff']⟩ :: tokensAux r.length .blank [.code 0] r
  | s => tokensAux s.length .blank [.code 0] s

theorem tokensAux_text (fuel : Nat) (last : TokenKind) (modes : List Mode) (s : List Char) :
    (tokensAux fuel last modes s).flatMap Token.text = s := by
  induction fuel generalizing last modes s with
  | zero => cases s <;> simp [tokensAux]
  | succ n ih =>
    cases s with
    | nil => simp [tokensAux]
    | cons c r => simp [tokensAux, ih]

theorem tokens_text (s : List Char) : (tokens s).flatMap Token.text = s := by
  unfold tokens
  split
  · simp [tokensAux_text]
  · exact tokensAux_text _ _ _ _

end ConfigKeeper.Elixir
