import ConfigKeeper.Text.Split
import ConfigKeeper.Text.Wide

/-!
Character sets by name. Bytes that are no character become U+FFFD; a codec that cannot replace them ends
with an error instead.
-/

namespace ConfigKeeper.Text

structure CodecFault where
  className : String
  message : String
deriving DecidableEq, Repr

abbrev Codec := List UInt8 → Except CodecFault (List Char)

abbrev Codecs := String → Option Codec

def replacement : Char := '\ufffd'

def decodeLatin1 (bytes : List UInt8) : List Char := bytes.map fun b => Char.ofNat b.toNat

def decodeAsciiLossy (bytes : List UInt8) : List Char :=
  bytes.map fun b => if b < 0x80 then Char.ofNat b.toNat else replacement

def decodeUtf16Lossy (order : ByteOrder) : List UInt8 → List Char
  | [] => []
  | [_] => [replacement]
  | a :: b :: r =>
    let u := order.value [a, b]
    if isHighSurrogate u then
      match r with
      | c :: d :: r =>
        let v := order.value [c, d]
        if isLowSurrogate v then charOfPair u v :: decodeUtf16Lossy order r
        else replacement :: decodeUtf16Lossy order (c :: d :: r)
      | _ => [replacement]
    else charOfUnit u :: decodeUtf16Lossy order r

def decodeUtf32Lossy (order : ByteOrder) : List UInt8 → List Char
  | [] => []
  | a :: b :: c :: d :: r =>
    let n := order.value [a, b, c, d]
    (if 0x110000 ≤ n then replacement else charOfUnit n) :: decodeUtf32Lossy order r
  | _ => [replacement]

def noMark (name : String) : CodecFault :=
  ⟨"UnicodeError", name ++ " stream does not start with BOM"⟩

/-- The byte order is that of the mark in front; less than a character needs none. -/
def decodeUtf16Marked : Codec
  | 0xff :: 0xfe :: r => .ok (decodeUtf16Lossy .little r)
  | 0xfe :: 0xff :: r => .ok (decodeUtf16Lossy .big r)
  | _ :: _ :: _ => .error (noMark "UTF-16")
  | bytes => .ok (decodeUtf16Lossy .little bytes)

def decodeUtf32Marked : Codec
  | 0xff :: 0xfe :: 0 :: 0 :: r => .ok (decodeUtf32Lossy .little r)
  | 0 :: 0 :: 0xfe :: 0xff :: r => .ok (decodeUtf32Lossy .big r)
  | _ :: _ :: _ :: _ :: _ => .error (noMark "UTF-32")
  | bytes => .ok (decodeUtf32Lossy .little bytes)

/-- What parts the words of a name does not matter, nor does case. -/
def codecName (name : String) : String :=
  let words := name.map fun c => if c.isAlphanum || c = '.' then c.toLower else ' '
  "_".intercalate ((splitOnChar ' ' words).filter fun word => !word.isEmpty)

/-- Codecs between bytes, or between texts, and one that is for names of hosts. -/
def strictCodecs : List (List String × CodecFault) := [
  (["base64", "base_64", "base64_codec", "hex", "hex_codec", "quopri", "quopri_codec",
    "quoted_printable", "quotedprintable", "uu", "uu_codec", "zip", "zlib", "zlib_codec", "bz2",
    "bz2_codec"], ⟨"AssertionError", ""⟩),
  (["rot13", "rot_13"], ⟨"TypeError",
    "descriptor 'translate' for 'str' objects doesn't apply to a 'bytes' object"⟩),
  (["idna"], ⟨"UnicodeError", "Unsupported error handling replace"⟩),
  (["undefined"], ⟨"UnicodeError", "undefined encoding"⟩)]

def lossyCodecs : List (List String × (List UInt8 → List Char)) := [
  (["latin_1", "latin1", "latin", "l1", "iso_8859_1", "iso8859_1", "iso8859", "8859", "cp819"],
    decodeLatin1),
  (["ascii", "us_ascii", "us", "646", "cp367"], decodeAsciiLossy),
  (["utf_8", "utf8", "utf", "u8", "cp65001"], decodeUtf8Lossy),
  (["utf_16_le", "utf_16le"], decodeUtf16Lossy .little),
  (["utf_16_be", "utf_16be"], decodeUtf16Lossy .big),
  (["utf_32_le", "utf_32le"], decodeUtf32Lossy .little),
  (["utf_32_be", "utf_32be"], decodeUtf32Lossy .big)]

def markedCodecs : List (List String × Codec) := [
  (["utf_16", "utf16", "u16"], decodeUtf16Marked), (["utf_32", "utf32", "u32"], decodeUtf32Marked)]

def codecs : List (List String × Codec) :=
  lossyCodecs.map (fun e => (e.1, fun bytes => .ok (e.2 bytes))) ++ markedCodecs ++
    strictCodecs.map fun e => (e.1, fun _ => .error e.2)

/-- Unicode, its first two blocks, and what is no character set; there are no code pages here. -/
def Codecs.unicode : Codecs := fun name =>
  (codecs.find? fun e => e.1.contains (codecName name)).map Prod.snd

end ConfigKeeper.Text
