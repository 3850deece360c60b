import ConfigKeeper.Text.Utf8

/-!
UTF-16 and UTF-32 in both byte orders. A surrogate that is not half of a pair becomes U+FFFD.
-/

namespace ConfigKeeper.Text

inductive ByteOrder
  | little
  | big
deriving DecidableEq, Repr

def ByteOrder.mark : ByteOrder → String
  | .little => "le"
  | .big => "be"

def ByteOrder.value (order : ByteOrder) (bytes : List UInt8) : Nat :=
  let bytes := match order with
    | .little => bytes.reverse
    | .big => bytes
  bytes.foldl (fun n b => n * 256 + b.toNat) 0

inductive WideReason
  | truncated
  | outOfRange
deriving DecidableEq, Repr

structure WideFault where
  encoding : String
  start : Nat
  bytes : List UInt8
  reason : WideReason
deriving DecidableEq, Repr

def WideReason.message : WideReason → String
  | .truncated => "truncated data"
  | .outOfRange => "code point not in range(0x110000)"

def WideFault.message (f : WideFault) : String :=
  undecodable f.encoding f.start f.bytes f.reason.message

def isHighSurrogate (n : Nat) : Bool := 0xd800 ≤ n && n < 0xdc00

def isLowSurrogate (n : Nat) : Bool := 0xdc00 ≤ n && n < 0xe000

/-- The character of a code unit; a surrogate alone has none and becomes U+FFFD. -/
def charOfUnit (n : Nat) : Char := if 0xd800 ≤ n && n < 0xe000 then '\ufffd' else Char.ofNat n

def charOfPair (high low : Nat) : Char :=
  Char.ofNat (0x10000 + (high - 0xd800) * 0x400 + (low - 0xdc00))

def joinUnits : List Nat → List Char
  | [] => []
  | [u] => [charOfUnit u]
  | u :: v :: r =>
    if isHighSurrogate u && isLowSurrogate v then charOfPair u v :: joinUnits r
    else charOfUnit u :: joinUnits (v :: r)

def units16 (order : ByteOrder) : Nat → List UInt8 → Except WideFault (List Nat)
  | _, [] => .ok []
  | pos, [b] => .error ⟨"utf-16-" ++ order.mark, pos, [b], .truncated⟩
  | pos, a :: b :: r => (order.value [a, b] :: ·) <$> units16 order (pos + 2) r

def decodeUtf16 (order : ByteOrder) (start : Nat) (bytes : List UInt8) :
    Except WideFault (List Char) :=
  (units16 order start bytes).map joinUnits

def decodeUtf32 (order : ByteOrder) : Nat → List UInt8 → Except WideFault (List Char)
  | _, [] => .ok []
  | pos, a :: b :: c :: d :: r =>
    let n := order.value [a, b, c, d]
    if 0x110000 ≤ n then .error ⟨"utf-32-" ++ order.mark, pos, [a, b, c, d], .outOfRange⟩
    else (charOfUnit n :: ·) <$> decodeUtf32 order (pos + 4) r
  | pos, rest => .error ⟨"utf-32-" ++ order.mark, pos, rest, .truncated⟩

end ConfigKeeper.Text
