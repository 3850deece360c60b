import ConfigKeeper.Json.Bytes
import ConfigKeeper.Json.Writer
import ConfigKeeper.Store.Basic
import ConfigKeeper.Store.Url
import ConfigKeeper.Text.Blank
import ConfigKeeper.Text.Codec

/-!
A store behind requests: a group is read with GET, and a merge patch sets values of it. What carries
the requests is a parameter; the rules here say what is sent and what an answer means.
-/

namespace ConfigKeeper.Vault

def logName : String := "secret_store"

structure Request where
  method : String
  url : String
  token : String
  contentType : Option String
  body : String
deriving DecidableEq, Repr

inductive Reply
  | answered (status : Nat) (charset : Option String) (body : List UInt8)
  | unreachable (text : String)
deriving DecidableEq, Repr

abbrev Transport (σ : Type) := σ → Request → Reply × σ

def dataPath : String := "/v1/secret/data"

def patchType : String := "application/merge-patch+json"

def isSlash (c : Char) : Bool := c = '/'

def withoutEndSlashes (s : String) : String := String.ofList (Text.dropEndWhile isSlash s.toList)

def groupUrl (base group : String) : String :=
  base ++ dataPath ++ "/" ++
    String.ofList (Text.dropEndWhile isSlash (group.toList.dropWhile isSlash))

def isAscii (c : Char) : Bool := c.toNat < 0x80

def unencodable (token : List Char) : String :=
  let start := (token.takeWhile isAscii).length
  let run := (token.drop start).takeWhile fun c => !isAscii c
  match run with
  | [c] =>
    "'ascii' codec can't encode character '" ++ String.ofList (Text.codeEscape c) ++
      "' in position " ++ toString start ++ ": ordinal not in range(128)"
  | run =>
    "'ascii' codec can't encode characters in position " ++ toString start ++ "-" ++
      toString (start + run.length - 1) ++ ": ordinal not in range(128)"

def request (base token group method body : String) (contentType : Option String) :
    Except Failure Request :=
  match Url.parse (groupUrl base group).toList with
  | .error f => .error (.unexpected "InvalidURL" f.message)
  | .ok url =>
    if token.toList.all isAscii then .ok ⟨method, url.grounded.toString, token, contentType, body⟩
    else .error (.unexpected "UnicodeEncodeError" (unencodable token.toList))

def patchBody (data : Group) : String :=
  (Json.object [("data", .object (data.map fun e => (e.1, .string e.2)))]).render

def unreachableProblem (base text : String) : Problem :=
  .plain .connection ("Failed to reach secret store at " ++ base ++ ": " ++ text) none

def isSuccess (status : Nat) : Bool := 200 ≤ status && status < 300

def charsetOf (contentType : String) : Option String :=
  let params := (Text.splitAt ';' contentType.toList).drop 1
  params.findSome? fun param =>
    let param := Text.trim param
    match Text.afterWord "charset=".toList (param.map Char.toLower) with
    | some value => some (String.ofList ((Text.trim value).filter (· != '"')))
    | none => none

/-- The body as text. A character set that is not known counts as none, which is UTF-8. -/
def bodyText (codecs : Text.Codecs) (charset : Option String) (body : List UInt8) : Except Failure String :=
  if body.isEmpty then .ok ""
  else match charset.bind codecs with
    | none => .ok (String.ofList (Text.decodeUtf8Lossy body))
    | some codec => match codec body with
      | .ok s => .ok (String.ofList s)
      | .error f => .error (.unexpected f.className f.message)

def authPhrase : List Char := "auth failed".toList

def mentionsAuth (body : String) : Bool := Text.contains authPhrase (body.toList.map Char.toLower)

def statusProblem (status : Nat) (body : String) : Problem :=
  if status = 404 then .secretNotFound
  else if status = 403 then .permissionDenied
  else if status = 401 || (status = 400 && mentionsAuth body) then .authenticationFailed
  else .storeResponse status body

/-- What an answer with success holds. The text of any other is put down before its status is looked at. -/
def accept (codecs : Text.Codecs) (base : String) : Reply → Logged (Except Failure (Nat × List UInt8))
  | .unreachable text => pure (.error (.problem (unreachableProblem base text)))
  | .answered status charset body =>
    if isSuccess status then pure (.ok (status, body))
    else match bodyText codecs charset body with
      | .error f => pure (.error f)
      | .ok text => do
        Logged.debug logName ("Secret store answered " ++ toString status ++ ": " ++ text)
        pure (.error (.problem (statusProblem status text)))

def readGroup (status : Nat) (body : List UInt8) : Except Problem Group :=
  match Json.parseBytes body with
  | .error m => .error (.storeResponse status ("Invalid JSON response: " ++ m))
  | .ok (.object ms) =>
    match (ms.lookup "data").bind (Json.field? "data") with
    | some (.object data) => .ok (data.map fun e => (e.1, e.2.plainText))
    | _ => .error (.storeResponse status "Response has no secret data")
  | .ok _ => .error (.storeResponse status "Unexpected response format")

variable {σ : Type}

def send (carry : Transport σ) (s : σ) (r : Except Failure Request) : Except Failure Reply × σ :=
  match r with
  | .error f => (.error f, s)
  | .ok r => let (reply, s) := carry s r; (.ok reply, s)

def fetch (codecs : Text.Codecs) (base : String) (carry : Transport σ) (s : σ) (token group : String) :
    Logged (Except Failure Group) × σ :=
  let (reply, s) := send carry s (request base token group "GET" "" none)
  let result : Logged (Except Failure Group) := do
    Logged.debug logName ("Fetching secrets from " ++ groupUrl base group)
    match reply with
    | .error f => pure (.error f)
    | .ok reply =>
      match ← accept codecs base reply with
      | .error f => pure (.error f)
      | .ok (status, body) => pure ((readGroup status body).mapError Failure.problem)
  (result, s)

def update (codecs : Text.Codecs) (base : String) (carry : Transport σ) (s : σ) (token group : String)
    (data : Group) : Logged (Except Failure Unit) × σ :=
  let (reply, s) :=
    send carry s (request base token group "PATCH" (patchBody data) (some patchType))
  let result : Logged (Except Failure Unit) := do
    Logged.debug logName
      ("Updating " ++ toString data.length ++ " secret(s) at " ++ groupUrl base group)
    match reply with
    | .error f => pure (.error f)
    | .ok reply =>
      match ← accept codecs base reply with
      | .error f => pure (.error f)
      | .ok _ => pure (.ok ())
  (result, s)

def store (base : String) (carry : Transport σ) (codecs : Text.Codecs := .unicode) : SecretStore σ where
  fetch := fetch codecs (withoutEndSlashes base) carry
  update := update codecs (withoutEndSlashes base) carry

def missingSecret (group name : String) : Problem :=
  .plain .secretNotFound ("Secret '" ++ name ++ "' not found in " ++ group ++ ".") none

def get (store : SecretStore σ) (s : σ) (token group name : String) :
    Logged (Except Failure String) × σ :=
  let (found, s) := store.fetch s token group
  let pick (g : Group) : Except Failure String :=
    match g.lookup name with
    | some v => .ok v
    | none => .error (.problem (missingSecret group name))
  ((fun r => r.bind pick) <$> found, s)

end ConfigKeeper.Vault
