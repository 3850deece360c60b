import ConfigKeeper.Decimal.Reader
import ConfigKeeper.Json.Basic
import ConfigKeeper.Text.Cursor
import ConfigKeeper.Text.Wide

/-!
Reading JSON texts. Besides the standard values `NaN`, `Infinity` and `-Infinity` are read; a fault
tells what was expected and at which character.
-/

namespace ConfigKeeper.Json

open Decimal Text

inductive Reason
  | value
  | name
  | colon
  | comma
  | end
  | closingQuote
  | noControl
  | escape
  | codeUnit
  | fewerDigits (count : Nat)
deriving DecidableEq, Repr

structure Fault where
  reason : Reason
  position : Nat
deriving DecidableEq, Repr

def digitLimit : Nat := 4300

def Reason.message : Reason → String
  | .value => "Expecting value"
  | .name => "Expecting property name enclosed in double quotes"
  | .colon => "Expecting ':' delimiter"
  | .comma => "Expecting ',' delimiter"
  | .end => "Extra data"
  | .closingQuote => "Unterminated string starting at"
  | .noControl => "Invalid control character at"
  | .escape => "Invalid \\escape"
  | .codeUnit => "Invalid \\uXXXX escape"
  | .fewerDigits count =>
    "Exceeds the limit (" ++ toString digitLimit ++
      " digits) for integer string conversion: value has " ++ toString count ++
      " digits; use sys.set_int_max_str_digits() to increase the limit"

def Fault.message (f : Fault) (s : List Char) : String :=
  match f.reason with
  | .fewerDigits _ => f.reason.message
  | reason =>
    reason.message ++ ": line " ++ toString (lineAt s f.position) ++ " column " ++
      toString (columnAt s f.position) ++ " (char " ++ toString f.position ++ ")"

def fail {α : Type} (c : Cursor) (reason : Reason) : Except Fault α := .error ⟨reason, c.position⟩

def isSpace (c : Char) : Bool := c = ' ' || c = '\t' || c = '\n' || c = '\r'

def skipSpace (c : Cursor) : Cursor := c.dropWhile isSpace

def codeUnit? : List Char → Option (Nat × List Char)
  | a :: b :: c :: d :: r =>
    match Text.hexValue? a, Text.hexValue? b, Text.hexValue? c, Text.hexValue? d with
    | some a, some b, some c, some d => some (((a * 16 + b) * 16 + c) * 16 + d, r)
    | _, _, _, _ => none
  | _ => none

def escaped? : Char → Option Char
  | '"' => some '"'
  | '\\' => some '\\'
  | '/' => some '/'
  | 'b' => some '\x08'
  | 'f' => some '\x0c'
  | 'n' => some '\n'
  | 'r' => some '\r'
  | 't' => some '\t'
  | _ => none

/-- Reads `\u` escapes after the letter, at `pos`: the character and how many characters follow the
letter. A high surrogate takes the low one after it; a text that ends in an escape is refused. -/
def unicodeEscape (pos : Nat) (r : List Char) : Except Fault (Char × Nat) :=
  if r.length < 5 then .error ⟨.codeUnit, pos⟩
  else match codeUnit? r with
    | none => .error ⟨.codeUnit, pos⟩
    | some (high, after) =>
      match after with
      | '\\' :: 'u' :: more =>
        if isHighSurrogate high && 5 ≤ more.length then
          match codeUnit? more with
          | none => .error ⟨.codeUnit, pos + 6⟩
          | some (low, _) =>
            if isLowSurrogate low then .ok (charOfPair high low, 10) else .ok (charOfUnit high, 4)
        else .ok (charOfUnit high, 4)
      | _ => .ok (charOfUnit high, 4)

/-- The characters of a string up to its closing quote. `start` is where the opening one stands, and
`skip` counts characters that belong to an escape already read. -/
def stringBody (start : Nat) : Nat → Nat → List Char → List Char → Except Fault (List Char × Cursor)
  | _, _, _, [] => .error ⟨.closingQuote, start⟩
  | pos, skip + 1, acc, _ :: r => stringBody start (pos + 1) skip acc r
  | pos, 0, acc, c :: r =>
    if c = '"' then .ok (acc.reverse, ⟨pos + 1, r⟩)
    else if c = '\\' then
      match r with
      | [] => .error ⟨.closingQuote, start⟩
      | e :: more =>
        if e = 'u' then
          match unicodeEscape (pos + 1) more with
          | .error f => .error f
          | .ok (x, size) => stringBody start (pos + 1) (1 + size) (x :: acc) r
        else match escaped? e with
          | some x => stringBody start (pos + 1) 1 (x :: acc) r
          | none => .error ⟨.escape, pos⟩
    else if c.toNat < 0x20 then .error ⟨.noControl, pos⟩
    else stringBody start (pos + 1) 0 (c :: acc) r

structure Numeral where
  negative : Bool
  whole : List Char
  fraction : Option (List Char)
  exponent : Option Int
  size : Nat
deriving DecidableEq, Repr

def fractionPart (s : List Char) : Option (List Char) :=
  match s with
  | '.' :: r =>
    let digits := r.takeWhile isDigit
    if digits.isEmpty then none else some digits
  | _ => none

def numeral? (s : List Char) : Option Numeral :=
  let negative := s.head? = some '-'
  let body := if negative then s.drop 1 else s
  let whole := match body with
    | '0' :: _ => ['0']
    | body => body.takeWhile isDigit
  if whole.isEmpty then none
  else
    let afterWhole := body.drop whole.length
    let fraction := fractionPart afterWhole
    let fractionSize := match fraction with | some f => f.length + 1 | none => 0
    let exponent := exponentPart (afterWhole.drop fractionSize)
    let exponentSize := match exponent with | some (_, n) => n | none => 0
    some ⟨negative, whole, fraction, exponent.map Prod.fst,
      s.length - body.length + whole.length + fractionSize + exponentSize⟩

def Numeral.double (n : Numeral) : Double :=
  ofParts n.negative n.whole (n.fraction.getD []) (n.exponent.getD 0)

def Numeral.toJson (n : Numeral) : Except Reason Json :=
  match n.fraction, n.exponent with
  | none, none =>
    if digitLimit < n.whole.length then .error (.fewerDigits n.whole.length)
    else .ok (.int (signedInt n.negative (naturalOf n.whole)))
  | _, _ => .ok (.float n.double)

def wordValues : List (String × Json) := [
  ("null", .null), ("true", .bool true), ("false", .bool false), ("NaN", .float .notANumber),
  ("Infinity", .float (.infinite false)), ("-Infinity", .float (.infinite true))]

def scalar (c : Cursor) : Except Fault (Json × Cursor) :=
  match wordValues.find? fun w => w.1.toList.isPrefixOf c.rest with
  | some (w, v) => .ok (v, c.drop w.length)
  | none => match numeral? c.rest with
    | none => fail c .value
    | some n => match n.toJson with
      | .error reason => fail c reason
      | .ok v => .ok (v, c.drop n.size)

mutual

def value : Nat → Cursor → Except Fault (Json × Cursor)
  | 0, c => fail c .value
  | fuel + 1, c =>
    match c.rest with
    | '"' :: r => do
      let (s, c) ← stringBody c.position (c.position + 1) 0 [] r
      .ok (.string (String.ofList s), c)
    | '{' :: _ =>
      let c := skipSpace (c.drop 1)
      match c.rest with
      | '}' :: _ => .ok (.object [], c.drop 1)
      | _ => do
        let (ms, c) ← members fuel [] c
        .ok (ofMembers ms, c)
    | '[' :: _ =>
      let c := skipSpace (c.drop 1)
      match c.rest with
      | ']' :: _ => .ok (.array [], c.drop 1)
      | _ => do
        let (vs, c) ← elements fuel [] c
        .ok (.array vs, c)
    | _ => scalar c

def members : Nat → List (String × Json) → Cursor → Except Fault (List (String × Json) × Cursor)
  | 0, _, c => fail c .value
  | fuel + 1, done, c =>
    match c.rest with
    | '"' :: r => do
      let (name, c) ← stringBody c.position (c.position + 1) 0 [] r
      let c := skipSpace c
      match c.rest with
      | ':' :: _ =>
        let (v, c) ← value fuel (skipSpace (c.drop 1))
        let done := (String.ofList name, v) :: done
        let c := skipSpace c
        match c.rest with
        | '}' :: _ => .ok (done.reverse, c.drop 1)
        | ',' :: _ => members fuel done (skipSpace (c.drop 1))
        | _ => fail c .comma
      | _ => fail c .colon
    | _ => fail c .name

def elements : Nat → List Json → Cursor → Except Fault (List Json × Cursor)
  | 0, _, c => fail c .value
  | fuel + 1, done, c => do
    let (v, c) ← value fuel c
    let c := skipSpace c
    match c.rest with
    | ']' :: _ => .ok ((v :: done).reverse, c.drop 1)
    | ',' :: _ => elements fuel (v :: done) (skipSpace (c.drop 1))
    | _ => fail c .comma

end

def parse (s : List Char) : Except Fault Json := do
  let (v, c) ← value (2 * s.length + 2) (skipSpace (Cursor.start s))
  let c := skipSpace c
  if c.rest.isEmpty then .ok v else fail c .end

end ConfigKeeper.Json
