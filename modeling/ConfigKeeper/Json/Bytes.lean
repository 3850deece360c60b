import ConfigKeeper.Json.Reader

/-!
JSON in bytes. The encoding is told by a byte order mark or else by where the first bytes are zero,
since a JSON text starts with ASCII characters.
-/

namespace ConfigKeeper.Json

open Text

inductive Encoding
  | utf8
  | markedUtf8
  | utf16 (order : ByteOrder)
  | utf32 (order : ByteOrder)
deriving DecidableEq, Repr

def detect (bytes : List UInt8) : Encoding × Nat :=
  match bytes with
  | 0 :: 0 :: 0xfe :: 0xff :: _ => (.utf32 .big, 4)
  | 0xff :: 0xfe :: 0 :: 0 :: _ => (.utf32 .little, 4)
  | 0xfe :: 0xff :: _ => (.utf16 .big, 2)
  | 0xff :: 0xfe :: _ => (.utf16 .little, 2)
  | 0xef :: 0xbb :: 0xbf :: _ => (.markedUtf8, 3)
  | 0 :: 0 :: _ :: _ :: _ => (.utf32 .big, 0)
  | 0 :: _ :: _ :: _ :: _ => (.utf16 .big, 0)
  | _ :: 0 :: 0 :: 0 :: _ => (.utf32 .little, 0)
  | _ :: 0 :: _ :: _ :: _ => (.utf16 .little, 0)
  | [0, _] => (.utf16 .big, 0)
  | [_, 0] => (.utf16 .little, 0)
  | _ => (.utf8, 0)

def decode (bytes : List UInt8) : Except String (List Char) :=
  let (encoding, mark) := detect bytes
  let body := bytes.drop mark
  match encoding with
  | .utf8 | .markedUtf8 => (decodeUtf8 body).mapError Utf8Fault.message
  | .utf16 order => (decodeUtf16 order mark body).mapError WideFault.message
  | .utf32 order => (decodeUtf32 order mark body).mapError WideFault.message

def parseBytes (bytes : List UInt8) : Except String Json :=
  match decode bytes with
  | .error m => .error m
  | .ok s => (parse s).mapError fun f => f.message s

end ConfigKeeper.Json
