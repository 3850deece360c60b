import ConfigKeeper.Text.Hex
import ConfigKeeper.Text.Letters
import ConfigKeeper.Text.Split

/-!
Names of hosts. A host is named by four numbers, by groups of hexadecimal digits, or by labels with
dots between them. A label with letters outside ASCII is written in ASCII: its plain characters,
then where the others go, as numbers in base 36.
-/

namespace ConfigKeeper.HostName

def isNumeric (s : List Char) : Bool := !s.isEmpty && s.all Char.isDigit

def number (s : List Char) : Nat := s.foldl (fun n c => n * 10 + (c.toNat - 48)) 0

def digitRuns : List Char → List (List Char)
  | [] => [[]]
  | c :: r =>
    match digitRuns r with
    | [] => [[c]]
    | run :: runs => if c.isDigit then (c :: run) :: runs else [] :: run :: runs

def looksNumeric (host : List Char) : Bool :=
  let runs := digitRuns host
  runs.all (fun r => !r.isEmpty) && runs.length ≤ 4 &&
    4 ≤ runs.length + (runs.foldl (fun n r => n + (r.length - 1) / 2) 0)

def isOctet (s : List Char) : Bool :=
  isNumeric s && s.length ≤ 3 && number s < 256 && (s.length = 1 || s.head? != some '0')

def isQuad (host : List Char) : Bool :=
  match Text.splitAt '.' host with
  | [a, b, c, d] => [a, b, c, d].all isOctet
  | _ => false

def isGroup (s : List Char) : Bool := !s.isEmpty && s.length ≤ 4 && s.all Text.isHexDigit

def groups (s : List Char) : List (List Char) := if s.isEmpty then [] else Text.splitAt ':' s

def groupCount? : List (List Char) → Option Nat
  | [] => some 0
  | [last] => if isQuad last then some 2 else if isGroup last then some 1 else none
  | g :: gs => if isGroup g then (· + 1) <$> groupCount? gs else none

def isGrouped (s : List Char) : Bool :=
  match Text.splitWord "::".toList s with
  | [whole] => groupCount? (groups whole) = some 8
  | [front, back] =>
    (groups front).all isGroup &&
      (groupCount? (groups back)).any fun n => (groups front).length + n < 8
  | _ => false

def isGroupedAddress (s : List Char) : Bool :=
  match Text.splitAt '%' s with
  | [address] => isGrouped address
  | [address, zone] => isGrouped address && !zone.isEmpty
  | _ => false

def lowerChar (c : Char) : Char :=
  let n := c.toNat
  if (0xc0 ≤ n && n ≤ 0xde && n != 0xd7) || (0x391 ≤ n && n ≤ 0x3a9) ||
      (0x410 ≤ n && n ≤ 0x42f) then Char.ofNat (n + 32)
  else if 0x400 ≤ n && n ≤ 0x40f then Char.ofNat (n + 80)
  else c.toLower

def base : Nat := 36

def digit (d : Nat) : Char := if d < 26 then Char.ofNat (97 + d) else Char.ofNat (22 + d)

def threshold (bias k : Nat) : Nat := min 26 (max 1 (k - bias))

theorem threshold_pos (bias k : Nat) : 1 ≤ threshold bias k := by
  simp only [threshold]
  omega

def digits (bias k n : Nat) : List Char :=
  let t := threshold bias k
  if n < t then [digit n]
  else digit (t + (n - t) % (base - t)) :: digits bias (k + base) ((n - t) / (base - t))
termination_by n
decreasing_by
  have := threshold_pos bias k
  have := Nat.div_le_self (n - threshold bias k) (base - threshold bias k)
  omega

def damped (delta k : Nat) : Nat :=
  if 455 < delta then damped (delta / 35) (k + base) else k + base * delta / (delta + 38)
termination_by delta

def adapted (delta count : Nat) (isFirst : Bool) : Nat :=
  let delta := if isFirst then delta / 700 else delta / 2
  damped (delta + delta / count) 0

structure Encoder where
  written : List Char
  delta : Nat
  bias : Nat
  placed : Nat

namespace Encoder

def pass (plain code : Nat) (e : Encoder) (c : Char) : Encoder :=
  if c.toNat < code then { e with delta := e.delta + 1 }
  else if c.toNat = code then {
    written := e.written ++ digits e.bias base e.delta
    delta := 0
    bias := adapted e.delta (e.placed + 1) (e.placed = plain)
    placed := e.placed + 1 }
  else e

def placeAll (plain : Nat) (label : List Char) : Nat → List Nat → Encoder → Encoder
  | _, [], e => e
  | next, code :: codes, e =>
    let e := { e with delta := e.delta + (code - next) * (e.placed + 1) }
    let e := label.foldl (pass plain code) e
    placeAll plain label (code + 1) codes { e with delta := e.delta + 1 }

end Encoder

def isAscii (c : Char) : Bool := c.toNat < 0x80

def insertCode (code : Nat) : List Nat → List Nat
  | [] => [code]
  | x :: xs =>
    if code < x then code :: x :: xs else if code = x then x :: xs else x :: insertCode code xs

def asciiForm (label : List Char) : List Char :=
  let plain := label.filter isAscii
  let codes := ((label.filter fun c => !isAscii c).map Char.toNat).foldr insertCode []
  let e := Encoder.placeAll plain.length label 0x80 codes ⟨[], 0, 72, plain.length⟩
  plain ++ (if plain.isEmpty then [] else ['-']) ++ e.written

def asciiPrefix : List Char := "xn--".toList

def labelLimit : Nat := 63

def nameLimit : Nat := 253

def isLabelCharacter (c : Char) : Bool :=
  c = '-' || (Text.continuesWord c && !Text.isUpperLetter c)

def hasStrayHyphen (label : List Char) : Bool :=
  label.head? = some '-' || label.getLast? = some '-' || (label.drop 2).take 2 = ['-', '-']

def isAsciiForm (label : List Char) : Bool :=
  asciiPrefix.isPrefixOf label && label.length != asciiPrefix.length && label.getLast? != some '-'

def encodeLabel? (label : List Char) : Option (List Char) :=
  if isAsciiForm label && label.all isAscii then some label
  else if label.isEmpty || hasStrayHyphen label || !label.all isLabelCharacter then none
  else
    let written := if label.all isAscii then label else asciiPrefix ++ asciiForm label
    if written.length ≤ labelLimit then some written else none

def isDot (c : Char) : Bool := ".。．｡".toList.contains c

def encode? (host : List Char) : Option (List Char) :=
  let labels := Text.splitAt '.' (host.map fun c => if isDot c then '.' else lowerChar c)
  let (labels, ending) :=
    if labels.getLast? = some [] then (labels.dropLast, ['.']) else (labels, [])
  match labels.mapM encodeLabel? with
  | none => none
  | some written =>
    let name := Text.joinWith ['.'] written
    if written.isEmpty || nameLimit < name.length then none else some (name ++ ending)

end ConfigKeeper.HostName
