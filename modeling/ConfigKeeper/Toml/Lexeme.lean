import ConfigKeeper.Decimal.Reader
import ConfigKeeper.Text.Hex
import ConfigKeeper.Text.Cursor
import ConfigKeeper.Toml.Fault
import ConfigKeeper.Toml.Moment

namespace ConfigKeeper.Toml

open Text Decimal

def isBlank (c : Char) : Bool := c = ' ' || c = '\t'

def isBlankOrNewline (c : Char) : Bool := isBlank c || c = '\n'

def isControl (c : Char) : Bool := (c.toNat < 0x20 && c != '\t') || c.toNat = 0x7f

def isControlInside (multiline : Bool) (c : Char) : Bool :=
  isControl c && !(multiline && c = '\n')

def isBareKey (c : Char) : Bool :=
  ('a' ≤ c && c ≤ 'z') || ('A' ≤ c && c ≤ 'Z') || isDigit c || c = '-' || c = '_'

def isKeyStart (c : Char) : Bool := isBareKey c || c = '"' || c = '\''

def skipBlanks (c : Cursor) : Cursor := c.dropWhile isBlank

def refuse (p : Char → Bool) (position : Nat) (stretch : List Char) : Except Fault Unit :=
  match stretch.find? p with
  | some x => failAt (position + (stretch.takeWhile fun y => !p y).length) (.invalid x)
  | none => .ok ()

def skipComment (c : Cursor) : Except Fault Cursor :=
  match c.rest with
  | '#' :: r => do
    let stretch := r.takeWhile (· != '\n')
    refuse isControl (c.position + 1) stretch
    .ok (c.drop (stretch.length + 1))
  | _ => .ok c

def skipToValue : Nat → Cursor → Except Fault Cursor
  | 0, c => .ok c
  | fuel + 1, c => do
    let next ← skipComment (c.dropWhile isBlankOrNewline)
    if next.position = c.position then .ok next else skipToValue fuel next

def skipToNext (c : Cursor) : Except Fault Cursor := skipToValue (c.rest.length + 1) c

/- Strings. -/

def indexOf? (word : List Char) : List Char → Option Nat
  | [] => if word.isEmpty then some 0 else none
  | c :: r => if Text.startsWith word (c :: r) then some 0 else (indexOf? word r).map (· + 1)

def literalBody (closing : String) (multiline : Bool) (c : Cursor) :
    Except Fault (List Char × Cursor) :=
  let word := closing.toList
  match indexOf? word c.rest with
  | none => failAt (c.position + c.rest.length) (.closing closing)
  | some n => do
    let body := c.rest.take n
    refuse (isControlInside multiline) c.position body
    .ok (body, c.drop (n + word.length))

def literal (c : Cursor) : Except Fault (List Char × Cursor) := literalBody "'" false (c.drop 1)

def hexNumber? : Nat → List Char → Option Nat
  | n, [] => some n
  | n, c :: r => match Text.hexValue? c with
    | some d => hexNumber? (n * 16 + d) r
    | none => none

def codePoint (position size : Nat) (r : List Char) : Except Fault Char :=
  if r.length < size then failAt position .hexadecimal
  else match hexNumber? 0 (r.take size) with
    | some n =>
      if n < 0x110000 && !(0xd800 ≤ n && n < 0xe000) then .ok (Char.ofNat n)
      else failAt (position + size) .surrogate
    | none => failAt position .hexadecimal

def escaped? : Char → Option Char
  | 'b' => some '\x08'
  | 't' => some '\t'
  | 'n' => some '\n'
  | 'f' => some '\x0c'
  | 'r' => some '\r'
  | '"' => some '"'
  | '\\' => some '\\'
  | _ => none

def lineContinuation (position : Nat) (r : List Char) : Except Fault Nat :=
  let blanks := (r.takeWhile isBlank).length
  match r.drop blanks with
  | [] => .ok blanks
  | c :: more =>
    if c = '\n' then .ok (blanks + 1 + (more.takeWhile isBlankOrNewline).length)
    else failAt (position + blanks) .escape

def escapeAfter (multiline : Bool) (position : Nat) (r : List Char) :
    Except Fault (List Char × Nat) :=
  match r with
  | [] => failAt (position + 1) .escape
  | e :: more =>
    if multiline && isBlankOrNewline e then
      (lineContinuation position r).map fun n => ([], n)
    else if e = 'u' then (codePoint (position + 1) 4 more).map fun x => ([x], 5)
    else if e = 'U' then (codePoint (position + 1) 8 more).map fun x => ([x], 9)
    else match escaped? e with
      | some x => .ok ([x], 1)
      | none => failAt (position + 1) .escape

/-- The characters of a string up to its closing quotes; `skip` counts characters of an escape that
is already read. -/
def basicBody (multiline : Bool) :
    Nat → Nat → List Char → List Char → Except Fault (List Char × Cursor)
  | pos, _, _, [] => failAt pos .unterminated
  | pos, skip + 1, acc, _ :: r => basicBody multiline (pos + 1) skip acc r
  | pos, 0, acc, c :: r =>
    if c = '"' then
      if !multiline then .ok (acc.reverse, ⟨pos + 1, r⟩)
      else if Text.startsWith ['"', '"'] r then .ok (acc.reverse, ⟨pos + 3, r.drop 2⟩)
      else basicBody multiline (pos + 1) 0 (c :: acc) r
    else if c = '\\' then
      match escapeAfter multiline (pos + 1) r with
      | .error f => .error f
      | .ok (xs, size) => basicBody multiline (pos + 1) size (xs.reverse ++ acc) r
    else if isControlInside multiline c then failAt pos (.illegal c)
    else basicBody multiline (pos + 1) 0 (c :: acc) r

def basicFrom (multiline : Bool) (c : Cursor) : Except Fault (List Char × Cursor) :=
  basicBody multiline c.position 0 [] c.rest

def basic (c : Cursor) : Except Fault (List Char × Cursor) := basicFrom false (c.drop 1)

/-- Up to two more quotes directly behind the closing three belong to the string. -/
def withExtraQuotes (quote : Char) (body : List Char) (c : Cursor) : List Char × Cursor :=
  let extra := min 2 (c.rest.takeWhile (· = quote)).length
  (body ++ List.replicate extra quote, c.drop extra)

/-- A line end directly behind the opening three quotes does not belong to the string. -/
def multiline (quote : Char) (c : Cursor) : Except Fault (List Char × Cursor) := do
  let c := c.drop 3
  let c := if c.next? = some '\n' then c.drop 1 else c
  let (body, c) ← if quote = '"' then basicFrom true c else literalBody "'''" true c
  .ok (withExtraQuotes quote body c)

/- Keys. -/

def keyPart (c : Cursor) : Except Fault (String × Cursor) :=
  match c.next? with
  | some x =>
    if isBareKey x then
      let part := c.rest.takeWhile isBareKey
      .ok (String.ofList part, c.drop part.length)
    else if x = '\'' then (literal c).map fun (s, c) => (String.ofList s, c)
    else if x = '"' then (basic c).map fun (s, c) => (String.ofList s, c)
    else fail c .keyPart
  | none => fail c .keyPart

def keyParts : Nat → Cursor → Except Fault (Key × Cursor)
  | 0, c => fail c .keyPart
  | fuel + 1, c => do
    let (part, c) ← keyPart c
    let c := skipBlanks c
    if c.next? = some '.' then
      let (parts, c) ← keyParts fuel (skipBlanks (c.drop 1))
      .ok (part :: parts, c)
    else .ok ([part], c)

def key (c : Cursor) : Except Fault (Key × Cursor) := keyParts (c.rest.length + 1) c

/- Numbers. -/

mutual

def runLength (p : Char → Bool) : List Char → Nat
  | [] => 0
  | c :: r => if p c then 1 + moreDigits p r else 0

def moreDigits (p : Char → Bool) : List Char → Nat
  | [] => 0
  | c :: r =>
    if p c then 1 + moreDigits p r
    else if c = '_' then
      let n := runLength p r
      if n = 0 then 0 else 1 + n
    else 0

end

def isOctalDigit (c : Char) : Bool := '0' ≤ c && c ≤ '7'
def isBinaryDigit (c : Char) : Bool := c = '0' || c = '1'

def numberIn (base : Nat) (digits : List Char) : Nat :=
  digits.foldl (fun n c => n * base + (Text.hexValue? c).getD 0) 0

def based (base : Nat) (p : Char → Bool) (r : List Char) : Option (Nat × Nat) :=
  let n := runLength p r
  if n = 0 then none else some (numberIn base ((r.take n).filter (· != '_')), n)

def basedNumber? : List Char → Option (Nat × Nat)
  | '0' :: 'x' :: r => based 16 Text.isHexDigit r
  | '0' :: 'o' :: r => based 8 isOctalDigit r
  | '0' :: 'b' :: r => based 2 isBinaryDigit r
  | _ => none

def wholeLength (s : List Char) : Nat :=
  match s with
  | '0' :: _ => 1
  | s => runLength isDigit s

def fractionLength : List Char → Nat
  | '.' :: r => let n := runLength isDigit r; if n = 0 then 0 else n + 1
  | _ => 0

def exponentLength : List Char → Nat
  | e :: r =>
    if e = 'e' || e = 'E' then
      let (_, digits) := cutSign r
      let n := runLength isDigit digits
      if n = 0 then 0 else 1 + (r.length - digits.length) + n
    else 0
  | [] => 0

def decimalNumber (c : Cursor) : Option (Except Fault (Toml × Cursor)) :=
  let (negative, body) := cutSign c.rest
  let whole := wholeLength body
  if whole = 0 then none
  else
    let sign := c.rest.length - body.length
    let fraction := fractionLength (body.drop whole)
    let exponent := exponentLength (body.drop (whole + fraction))
    let size := whole + fraction + exponent
    let digits := (body.take size).filter (· != '_')
    let after := c.drop (sign + size)
    some <|
      if fraction + exponent = 0 then
        if digitLimit < digits.length then fail c (.fewerDigits digits.length)
        else .ok (.int (signedInt negative (naturalOf digits)), after)
      else .ok (.float ((unsigned? negative digits).getD .notANumber), after)

def number (c : Cursor) : Option (Except Fault (Toml × Cursor)) :=
  match basedNumber? c.rest with
  | some (n, size) => some (.ok (.int n, c.drop (size + 2)))
  | none => decimalNumber c

def wordNumbers : List (String × Double) := [
  ("inf", .infinite false), ("+inf", .infinite false), ("-inf", .infinite true),
  ("nan", .notANumber), ("+nan", .notANumber), ("-nan", .notANumber)]

def wordNumber? (c : Cursor) : Option (Toml × Cursor) :=
  (wordNumbers.find? fun w => c.startsWith w.1.toList).map fun (w, x) => (.float x, c.drop w.length)

def scalar (c : Cursor) : Except Fault (Toml × Cursor) :=
  match momentAt? c.rest with
  | some (m, r) =>
    if m.isReal then .ok (.moment m, c.drop (c.rest.length - r.length)) else fail c .moment
  | none => match number c with
    | some found => found
    | none => match wordNumber? c with
      | some found => .ok found
      | none => fail c .value

end ConfigKeeper.Toml
