import ConfigKeeper.Decimal.Reader
import ConfigKeeper.Text.Hex
import ConfigKeeper.Text.Split
import ConfigKeeper.Yaml.Basic

/-!
What plain scalars stand for. Truth values have several words, a number may be written in other
bases and in units of sixty, and underscores between digits do not count.
-/

namespace ConfigKeeper.Yaml

open Decimal

inductive Kind
  | string
  | bool
  | float
  | int
  | merge
  | null
  | moment
  | value
  | binary
deriving DecidableEq, Repr

def isSpelling (word s : String) : Bool :=
  s = word || s = word.capitalize || s = word.toUpper

def trueWords : List String := ["yes", "true", "on"]

def falseWords : List String := ["no", "false", "off"]

def isBool (s : String) : Bool := (trueWords ++ falseWords).any fun w => isSpelling w s

def isNull (s : String) : Bool := s = "" || s = "~" || isSpelling "null" s

def isLooseDigit (c : Char) : Bool := isDigit c || c = '_'

def withoutSign (s : List Char) : List Char := (cutSign s).2

def isLooseNumber : List Char → Bool
  | c :: r => isDigit c && r.all isLooseDigit
  | [] => false

def isSignedExponent : List Char → Bool
  | e :: sign :: digits =>
    (e = 'e' || e = 'E') && (sign = '+' || sign = '-') && !digits.isEmpty && digits.all isDigit
  | _ => false

def isSixtieth : List Char → Bool
  | [a] => isDigit a
  | [a, b] => '0' ≤ a && a ≤ '5' && isDigit b
  | _ => false

def isPointNumber (s : List Char) : Bool :=
  let whole := s.takeWhile (· != '.')
  let rest := (s.drop (whole.length + 1)).dropWhile isLooseDigit
  s.contains '.' && isLooseNumber whole && (rest.isEmpty || isSignedExponent rest)

def isFractionNumber : List Char → Bool
  | '.' :: r =>
    let rest := r.dropWhile isLooseDigit
    (r.head?.map isDigit).getD false && (rest.isEmpty || isSignedExponent rest)
  | _ => false

def isSixtyParts : List (List Char) → Bool
  | first :: second :: more => isLooseNumber first && (second :: more).all isSixtieth
  | _ => false

def isSixtyPointNumber (s : List Char) : Bool :=
  match Text.splitAt '.' s with
  | [whole, fraction] => fraction.all isLooseDigit && isSixtyParts (Text.splitAt ':' whole)
  | _ => false

def isInfinityWord (s : String) : Bool := s = ".inf" || s = ".Inf" || s = ".INF"

def isNanWord (s : String) : Bool := s = ".nan" || s = ".NaN" || s = ".NAN"

def isFloat (s : List Char) : Bool :=
  let body := withoutSign s
  isPointNumber body || isFractionNumber s || isSixtyPointNumber body ||
    isInfinityWord (String.ofList body) || isNanWord (String.ofList s)

def isHexDigit (c : Char) : Bool := Text.isHexDigit c || c = '_'

def isOctalDigit (c : Char) : Bool := ('0' ≤ c && c ≤ '7') || c = '_'

def isBinaryDigit (c : Char) : Bool := c = '0' || c = '1' || c = '_'

def isUnsignedInt : List Char → Bool
  | ['0'] => true
  | '0' :: 'b' :: r => !r.isEmpty && r.all isBinaryDigit
  | '0' :: 'x' :: r => !r.isEmpty && r.all isHexDigit
  | '0' :: r => r.all isOctalDigit
  | s => isLooseNumber s || isSixtyParts (Text.splitAt ':' s)

def isInt (s : List Char) : Bool := isUnsignedInt (withoutSign s)

/- Moments. -/

def digits? (least most : Nat) (s : List Char) : Option (Nat × List Char) :=
  let ds := (s.take most).takeWhile isDigit
  if least ≤ ds.length then some (naturalOf ds, s.drop ds.length) else none

def mark? (mark : Char) : List Char → Option (List Char)
  | c :: r => if c = mark then some r else none
  | [] => none

def isSpaceOrTab (c : Char) : Bool := c = ' ' || c = '\t'

def separator? : List Char → Option (List Char)
  | c :: r =>
    if c = 'T' || c = 't' then some r
    else if isSpaceOrTab c then some (r.dropWhile isSpaceOrTab)
    else none
  | [] => none

def zone? (s : List Char) : Option (Option Int) :=
  match s.dropWhile isSpaceOrTab with
  | [] => if s.isEmpty then some none else none
  | ['Z'] => some (some 0)
  | c :: r =>
    if c = '+' || c = '-' then do
      let (hours, r) ← digits? 1 2 r
      let (minutes, r) ← if r.isEmpty then some (0, []) else digits? 2 2 (← mark? ':' r)
      if r.isEmpty then some (some (signedInt (c = '-') (hours * 60 + minutes))) else none
    else none

def clock? (s : List Char) : Option (Clock × Option Int) := do
  let (hour, r) ← digits? 1 2 s
  let (minute, r) ← digits? 2 2 (← mark? ':' r)
  let (second, r) ← digits? 2 2 (← mark? ':' r)
  let (fraction, r) := match r with
    | '.' :: r => (r.takeWhile isDigit, r.dropWhile isDigit)
    | r => ([], r)
  let zone ← zone? r
  pure (⟨hour, minute, second, millionths fraction⟩, zone)

def moment? (s : List Char) : Option Moment := do
  let (year, r) ← digits? 4 4 s
  let (month, r') ← digits? 1 2 (← mark? '-' r)
  let (day, rest) ← digits? 1 2 (← mark? '-' r')
  if rest.isEmpty then pure (.day ⟨year, month, day⟩)
  else
    let (clock, zone) ← clock? (← separator? rest)
    pure (.both ⟨year, month, day⟩ clock zone)

/-- A day alone has two digits for its month and its day; with a time one is enough. -/
def isMoment (s : List Char) : Bool :=
  match moment? s with
  | some (.day _) => s.length = 10
  | some _ => true
  | none => false

def kindOf (s : String) : Kind :=
  let cs := s.toList
  if isBool s then .bool
  else if isFloat cs then .float
  else if isInt cs then .int
  else if s = "<<" then .merge
  else if isNull s then .null
  else if isMoment cs then .moment
  else if s = "=" then .value
  else .string

/- Values. -/

def boolOf (s : String) : Except Misfit Bool :=
  if trueWords.contains s.toLower then .ok true
  else if falseWords.contains s.toLower then .ok false
  else .error (.word s.toLower)

def digitValue? (base : Nat) (c : Char) : Option Nat :=
  let n :=
    if isDigit c then c.toNat - 48
    else if 'a' ≤ c && c ≤ 'f' then c.toNat - 87
    else if 'A' ≤ c && c ≤ 'F' then c.toNat - 55
    else base
  if n < base then some n else none

def mostDigits : Nat := 4300

def numberIn (base : Nat) (s : List Char) : Except Misfit Nat :=
  let n? := s.foldl (fun n c => n.bind fun n => (digitValue? base c).map fun d => n * base + d) (some 0)
  match n? with
  | some n =>
    if s.isEmpty then .error (.digits base "")
    else if base = 10 && mostDigits < s.length then .error (.manyDigits s.length)
    else .ok n
  | none => .error (.digits base (String.ofList s))

def sixties (parts : List (List Char)) : Except Misfit Nat := do
  let ns ← parts.mapM (numberIn 10)
  .ok (ns.foldl (fun n d => n * 60 + d) 0)

def natural : List Char → Except Misfit Nat
  | [] => .error .nothing
  | ['0'] => .ok 0
  | '0' :: 'b' :: r => numberIn 2 r
  | '0' :: 'x' :: r => numberIn 16 r
  | '0' :: r => numberIn 8 ('0' :: r)
  | s => if s.contains ':' then sixties (Text.splitAt ':' s) else numberIn 10 s

def intOf (s : List Char) : Except Misfit Int :=
  let (negative, body) := cutSign (s.filter (· != '_'))
  (natural body).map (signedInt negative)

def mostParts : Nat := 174

def sixtyFloat (negative : Bool) (s : List Char) : Except Misfit Double := do
  let (whole, fraction) := (s.takeWhile (· != '.'), (s.dropWhile (· != '.')).drop 1)
  let parts := Text.splitAt ':' whole
  let n ← sixties parts
  if mostParts < parts.length then .error .manyParts
  else .ok (Double.ofDecimal negative (n * tenTo fraction.length + naturalOf fraction)
    (-(fraction.length : Int)))

def floatOf (s : List Char) : Except Misfit Double :=
  let digits := (s.filter (· != '_')).map Char.toLower
  let (negative, body) := cutSign digits
  if digits.isEmpty then .error .nothing
  else if body = ['.', 'i', 'n', 'f'] then .ok (.infinite negative)
  else if body = ['.', 'n', 'a', 'n'] then .ok .notANumber
  else if body.contains ':' then sixtyFloat negative body
  else match unsigned? negative body with
    | some x => .ok x
    | none => .error (.decimal (String.ofList body))

def momentOf (s : List Char) : Except Misfit Moment :=
  match moment? s with
  | none => .error .noMoment
  | some m => match m.fault? with
    | some reason => .error (.moment reason)
    | none => .ok m

def isBase64 (c : Char) : Bool := c.isAlphanum || c = '+' || c = '/'

/-- Whether the letters of a text make up groups of four, of which `place` letters and `pads` equals signs are
read. The last group may be filled up with equals signs, and nothing else counts. -/
def isBase64From : Nat → Nat → List Char → Bool
  | place, _, [] => place = 0
  | place, pads, c :: r =>
    if c = '=' then
      if place < 2 then isBase64From place pads r
      else 4 ≤ place + pads + 1 || isBase64From place (pads + 1) r
    else if isBase64 c then isBase64From ((place + 1) % 4) 0 r
    else isBase64From place pads r

def isBinary (s : List Char) : Bool := s.all (fun c => c.toNat < 0x80) && isBase64From 0 0 s

def ofKind? (k : Kind) (s : String) : Option (Except Misfit Yaml) :=
  match k with
  | .string => some (.ok (.string s))
  | .bool => some ((boolOf s).map .bool)
  | .float => some ((floatOf s.toList).map .float)
  | .int => some ((intOf s.toList).map .int)
  | .null => some (.ok .null)
  | .moment => some ((momentOf s.toList).map .moment)
  | .merge | .value | .binary => none

end ConfigKeeper.Yaml
