import ConfigKeeper.Text.Hex

/-!
Strict UTF-8. Decoding either gives every character or names the first byte sequence that is no
character, where it stands and why.
-/

namespace ConfigKeeper.Text

inductive Utf8Reason
  | invalidStart
  | invalidContinuation
  | unexpectedEnd
deriving DecidableEq, Repr

structure Utf8Fault where
  start : Nat
  bytes : List UInt8
  reason : Utf8Reason
deriving DecidableEq, Repr

def Utf8Reason.message : Utf8Reason → String
  | .invalidStart => "invalid start byte"
  | .invalidContinuation => "invalid continuation byte"
  | .unexpectedEnd => "unexpected end of data"

def undecodable (encoding : String) (start : Nat) (bytes : List UInt8) (reason : String) : String :=
  match bytes with
  | [b] =>
    "'" ++ encoding ++ "' codec can't decode byte 0x" ++ String.ofList (hexFixed 2 b.toNat) ++
      " in position " ++ toString start ++ ": " ++ reason
  | bs =>
    "'" ++ encoding ++ "' codec can't decode bytes in position " ++ toString start ++ "-" ++
      toString (start + bs.length - 1) ++ ": " ++ reason

def Utf8Fault.message (f : Utf8Fault) : String :=
  undecodable "utf-8" f.start f.bytes f.reason.message

def isContinuation (b : UInt8) : Bool := 0x80 ≤ b && b < 0xc0

/-- Whether `b` may follow the lead byte `lead` of three or four bytes: no overlong form, no
surrogate, nothing above U+10FFFF. -/
def secondFits (lead b : UInt8) : Bool :=
  isContinuation b && !(lead == 0xe0 && b < 0xa0) && !(lead == 0xed && 0xa0 ≤ b) &&
    !(lead == 0xf0 && b < 0x90) && !(lead == 0xf4 && 0x90 ≤ b)

def low (b : UInt8) : Nat := b.toNat % 64

inductive Utf8Step
  | char (c : Char) (size : Nat)
  | fault (size : Nat) (reason : Utf8Reason)

def utf8Step (lead : UInt8) (rest : List UInt8) : Utf8Step :=
  if lead < 0x80 then .char (Char.ofNat lead.toNat) 1
  else if lead < 0xc2 || 0xf5 ≤ lead then .fault 1 .invalidStart
  else if lead < 0xe0 then
    match rest with
    | [] => .fault 1 .unexpectedEnd
    | b :: _ =>
      if isContinuation b then .char (Char.ofNat (lead.toNat % 32 * 64 + low b)) 2
      else .fault 1 .invalidContinuation
  else if lead < 0xf0 then
    match rest with
    | [] => .fault 1 .unexpectedEnd
    | b :: more =>
      if !secondFits lead b then .fault 1 .invalidContinuation
      else match more with
        | [] => .fault 2 .unexpectedEnd
        | c :: _ =>
          if isContinuation c then
            .char (Char.ofNat ((lead.toNat % 16 * 64 + low b) * 64 + low c)) 3
          else .fault 2 .invalidContinuation
  else
    match rest with
    | [] => .fault 1 .unexpectedEnd
    | b :: more =>
      if !secondFits lead b then .fault 1 .invalidContinuation
      else match more with
        | [] => .fault 2 .unexpectedEnd
        | c :: more =>
          if !isContinuation c then .fault 2 .invalidContinuation
          else match more with
            | [] => .fault 3 .unexpectedEnd
            | d :: _ =>
              if isContinuation d then
                .char (Char.ofNat (((lead.toNat % 8 * 64 + low b) * 64 + low c) * 64 + low d)) 4
              else .fault 3 .invalidContinuation

/-- `skip` bytes at the front belong to a character that is already read. -/
def decodeUtf8Aux : Nat → Nat → List UInt8 → Except Utf8Fault (List Char)
  | _, _, [] => .ok []
  | pos, skip + 1, _ :: r => decodeUtf8Aux (pos + 1) skip r
  | pos, 0, b :: r =>
    match utf8Step b r with
    | .char c size => (c :: ·) <$> decodeUtf8Aux (pos + 1) (size - 1) r
    | .fault size reason => .error ⟨pos, (b :: r).take size, reason⟩

def decodeUtf8 (bytes : List UInt8) : Except Utf8Fault (List Char) := decodeUtf8Aux 0 0 bytes

/-- Each sequence that is no character becomes one U+FFFD. -/
def decodeUtf8LossyAux : Nat → List UInt8 → List Char
  | _, [] => []
  | skip + 1, _ :: r => decodeUtf8LossyAux skip r
  | 0, b :: r =>
    match utf8Step b r with
    | .char c size => c :: decodeUtf8LossyAux (size - 1) r
    | .fault size _ => '\ufffd' :: decodeUtf8LossyAux (size - 1) r

def decodeUtf8Lossy (bytes : List UInt8) : List Char := decodeUtf8LossyAux 0 bytes

def encodeUtf8 (s : List Char) : List UInt8 := s.flatMap String.utf8EncodeChar

def byteLength (s : List Char) : Nat := s.foldr (fun c n => c.utf8Size + n) 0

theorem encodeUtf8_length (s : List Char) : (encodeUtf8 s).length = byteLength s := by
  induction s with
  | nil => rfl
  | cons c r ih => simp_all [encodeUtf8, byteLength]

end ConfigKeeper.Text
