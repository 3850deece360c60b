import ConfigKeeper.Store.HostName
import ConfigKeeper.Text.Hex
import ConfigKeeper.Text.Quoted
import ConfigKeeper.Text.Split
import ConfigKeeper.Text.Utf8

/-!
Addresses of requests: a scheme, a host and a path, written in one normal form. Characters outside a
part's own set are written as the hexadecimal digits of their bytes.
-/

namespace ConfigKeeper

structure Url where
  scheme : String
  userinfo : String
  host : String
  port : Option Nat
  path : List Char
  query : Option (List Char)
  fragment : Option (List Char)
deriving DecidableEq, Repr

inductive UrlFault
  | tooLong
  | controlCharacter (c : Char) (position : Nat)
  | port (text : String)
  | quadAddress (host : String)
  | groupedAddress (host : String)
  | hostName (host : String)
  | pathAfterHost
  | doubleSlash
  | leadingColon
deriving DecidableEq, Repr

def UrlFault.message : UrlFault → String
  | .tooLong => "URL too long"
  | .controlCharacter c position =>
    "Invalid non-printable ASCII character in URL, " ++ quoted (String.singleton c) ++
      " at position " ++ toString position ++ "."
  | .port text => "Invalid port: " ++ quoted text
  | .quadAddress host => "Invalid IPv4 address: " ++ quoted host
  | .groupedAddress host => "Invalid IPv6 address: " ++ quoted host
  | .hostName host => "Invalid IDNA hostname: " ++ quoted host
  | .pathAfterHost => "For absolute URLs, path must be empty or begin with '/'"
  | .doubleSlash => "Relative URLs cannot have a path starting with '//'"
  | .leadingColon => "Relative URLs cannot have a path starting with ':'"

namespace Url

def isSafe (unsafe_ : List Char) (c : Char) : Bool :=
  0x20 ≤ c.toNat && c.toNat < 0x7f && !unsafe_.contains c

def fragmentUnsafe : List Char := " \"<>`".toList

def queryUnsafe : List Char := " \"#<>".toList

def pathUnsafe : List Char := queryUnsafe ++ "?`\x7b\x7d".toList

def userinfoUnsafe : List Char := pathUnsafe ++ "/;=@[\\]^|".toList

def percentByte (b : UInt8) : List Char :=
  '%' :: (Text.hexFixed 2 b.toNat).map Char.toUpper

def percentChar (c : Char) : List Char := (Text.encodeUtf8 [c]).flatMap percentByte

def encoded (safe : Char → Bool) (s : List Char) : List Char :=
  s.flatMap fun c => if safe c then [c] else percentChar c

def requoted (safe : Char → Bool) : List Char → List Char
  | '%' :: a :: b :: r =>
    if Text.isHexDigit a && Text.isHexDigit b then '%' :: a :: b :: requoted safe r
    else (if safe '%' then ['%'] else percentChar '%') ++ requoted safe (a :: b :: r)
  | c :: r => (if safe c then [c] else percentChar c) ++ requoted safe r
  | [] => []

def decodedBytes : List Char → List UInt8
  | '%' :: a :: b :: r =>
    match Text.hexValue? a, Text.hexValue? b with
    | some x, some y => UInt8.ofNat (x * 16 + y) :: decodedBytes r
    | _, _ => Text.encodeUtf8 ['%'] ++ decodedBytes (a :: b :: r)
  | c :: r => Text.encodeUtf8 [c] ++ decodedBytes r
  | [] => []

def decoded (s : List Char) : List Char := Text.decodeUtf8Lossy (decodedBytes s)

def cutScheme (s : List Char) : List Char × List Char :=
  let word := s.takeWhile fun c => c.isAlphanum || c = '+' || c = '.' || c = '-'
  let starts := match word with
    | c :: _ => c.isAlpha
    | [] => true
  match s.drop word.length with
  | ':' :: r => if starts then (word, r) else ([], s)
  | _ => ([], s)

def cutAuthority (s : List Char) : List Char × List Char :=
  match s with
  | '/' :: '/' :: r =>
    let authority := r.takeWhile fun c => c != '/' && c != '?' && c != '#'
    (authority, r.drop authority.length)
  | s => ([], s)

def cutUserinfo (s : List Char) : List Char × List Char :=
  let after := (s.reverse.takeWhile (· != '@')).reverse
  if after.length = s.length then ([], s) else (s.take (s.length - after.length - 1), after)

def hasBrackets (s : List Char) : Bool := s.head? = some '[' && s.contains ']'

def cutPort (s : List Char) : List Char × List Char :=
  let host :=
    if hasBrackets s then (s.reverse.dropWhile (· != ']')).reverse
    else s.takeWhile fun c => c != ':' && c != '@'
  match s.drop host.length with
  | ':' :: port => (host, port)
  | port => (host, port)

def hostUnreserved (c : Char) : Bool :=
  c.isAlphanum || "-._~!$&'()*+,;=\"`\x7b\x7d%|\\".toList.contains c

def encodeHost (host : List Char) : Except UrlFault (List Char) :=
  let text := String.ofList host
  if HostName.looksNumeric host then
    if HostName.isQuad host then .ok host else .error (.quadAddress text)
  else if hasBrackets host then
    let inner := (host.drop 1).dropLast
    if HostName.isGroupedAddress inner then .ok inner else .error (.groupedAddress text)
  else if host.all HostName.isAscii then .ok (requoted hostUnreserved (host.map Char.toLower))
  else
    match HostName.encode? host with
    | some name => .ok name
    | none => .error (.hostName text)

def defaultPort (scheme : String) : Option Nat :=
  [("ftp", 21), ("http", 80), ("https", 443), ("ws", 80), ("wss", 443)].lookup scheme

def readPort (scheme : String) (port : List Char) : Except UrlFault (Option Nat) :=
  if port.isEmpty then .ok none
  else if HostName.isNumeric port then
    if defaultPort scheme = some (HostName.number port) then .ok none
    else .ok (some (HostName.number port))
  else .error (.port (String.ofList port))

def resolveDots : List (List Char) → List (List Char) → List (List Char)
  | done, [] => done
  | done, ['.'] :: rest => resolveDots done rest
  | done, ['.', '.'] :: rest =>
    resolveDots (if done.isEmpty || done = [[]] then done else done.dropLast) rest
  | done, name :: rest => resolveDots (done ++ [name]) rest

def normalPath (path : List Char) : List Char :=
  Text.joinWith ['/'] (resolveDots [] (Text.splitAt '/' path))

def cutAt (mark : Char) (s : List Char) : List Char × Option (List Char) :=
  let front := s.takeWhile (· != mark)
  (front, match s.drop front.length with
    | _ :: r => some r
    | [] => none)

def lengthLimit : Nat := 65536

def checkPath (path : List Char) (hasScheme hasAuthority : Bool) : Except UrlFault Unit :=
  if hasAuthority then
    if path.isEmpty || path.head? = some '/' then .ok () else .error .pathAfterHost
  else if hasScheme then .ok ()
  else if Text.startsWith ['/', '/'] path then .error .doubleSlash
  else if path.head? = some ':' then .error .leadingColon
  else .ok ()

def isControl (c : Char) : Bool := c.toNat < 0x20 || c.toNat = 0x7f

def checkCharacters (s : List Char) : Except UrlFault Unit :=
  match s.find? isControl with
  | some c => .error (.controlCharacter c (s.takeWhile fun x => !isControl x).length)
  | none => .ok ()

def parse (s : List Char) : Except UrlFault Url :=
  if lengthLimit < s.length then .error .tooLong
  else do
    checkCharacters s
    let (scheme, rest) := cutScheme s
    let (authority, rest) := cutAuthority rest
    let (rest, fragment) := cutAt '#' rest
    let (path, query) := cutAt '?' rest
    let (userinfo, place) := cutUserinfo authority
    let (host, port) := cutPort place
    let host ← encodeHost host
    let port ← readPort (String.ofList scheme) port
    let hasScheme := !scheme.isEmpty
    let hasAuthority := !userinfo.isEmpty || !host.isEmpty || port.isSome
    checkPath path hasScheme hasAuthority
    let path := if hasScheme || hasAuthority then normalPath path else path
    .ok {
      scheme := String.ofList (scheme.map Char.toLower)
      userinfo := String.ofList (requoted (isSafe userinfoUnsafe) userinfo)
      host := String.ofList host
      port := port
      path := requoted (isSafe pathUnsafe) path
      query := query.map (requoted (isSafe queryUnsafe))
      fragment := fragment.map (requoted (isSafe fragmentUnsafe)) }

def authority (u : Url) : String :=
  let host := if u.host.toList.contains ':' then "[" ++ u.host ++ "]" else u.host
  (if u.userinfo.isEmpty then "" else u.userinfo ++ "@") ++ host ++
    match u.port with
    | some n => ":" ++ toString n
    | none => ""

def toString (u : Url) : String :=
  (if u.scheme.isEmpty then "" else u.scheme ++ ":") ++
    (if u.authority.isEmpty then "" else "//" ++ u.authority) ++ String.ofList u.path ++
    (match u.query with | some q => "?" ++ String.ofList q | none => "") ++
    (match u.fragment with | some f => "#" ++ String.ofList f | none => "")

/-- Without a scheme and a host only the path and what follows it are kept. -/
def grounded (u : Url) : Url :=
  if u.scheme.isEmpty || u.host.isEmpty then
    { u with
      scheme := "", userinfo := "", host := "", port := none, fragment := none
      path := '/' :: u.path.dropWhile (· = '/') }
  else u

end Url

end ConfigKeeper
