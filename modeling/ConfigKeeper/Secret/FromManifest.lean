import ConfigKeeper.Log.Record
import ConfigKeeper.Project.SourceFile
import ConfigKeeper.Secret.Info
import ConfigKeeper.Secret.Loose
import ConfigKeeper.Toml.Reader

/-!
Secrets of a manifest: the entries of its `secrets` array. An element of the array is an entry
itself if it has one of the fields of an entry; otherwise each table in it is an entry under its own
name.
-/

namespace ConfigKeeper.Manifest

def name : String := "wukong_toml"

def fileName : String := ".wukong.toml"

def handles (p : Path) : Bool := p.name == fileName

def logSource : String := "extractors.manifest"

def supportedProvider : String := "bunker"
def supportedKind : String := "generic"
def supportedSource : String := "vault"
def supportedEngine : String := "secret"

def requiredFields : List String := ["provider", "kind", "src", "dst"]

/-- A candidate for a secret. The name of an element that is an entry itself may be any value. -/
structure Entry where
  name : Option Toml
  fields : Toml.Entries
deriving Repr

def isEntry (t : Toml.Entries) : Bool := requiredFields.any fun f => t.any fun e => e.1 == f

def entriesOf : Toml → List Entry
  | .table t =>
    if isEntry t then [⟨t.lookup "name", t⟩]
    else t.filterMap fun (key, v) => v.entries?.map fun fields => ⟨some (.string key), fields⟩
  | _ => []

def notTable (file : Path) (key : String) : Log.Record :=
  ⟨Log.warningLevel, logSource,
    "Skipping secrets entry '" ++ key ++ "' in " ++ file.toString ++ ": not a table"⟩

def remarksOn (file : Path) : Toml → List Log.Record
  | .table t =>
    if isEntry t then []
    else t.filterMap fun (key, v) => match v.entries? with
      | some _ => none
      | none => some (notTable file key)
  | _ =>
    [⟨Log.warningLevel, logSource, "Skipping non-table secrets entry in " ++ file.toString⟩]

namespace Entry

def label (e : Entry) : String :=
  match e.name with
  | some v => if v.isTruthy then v.text else "<unnamed>"
  | none => "<unnamed>"

def field? (e : Entry) (name : String) : Option String := (e.fields.lookup name).bind Toml.string?

def missing (e : Entry) : List String := requiredFields.filter fun f => (e.field? f).isNone

/-- Destinations that start at the root or at a home directory are outside any project. -/
def isOutside (destination : String) : Bool :=
  Text.startsWith ['~', '/'] destination.toList || Text.startsWith ['/'] destination.toList

inductive Obstacle
  | missing (fields : List String)
  | otherProvider (provider kind : String)
  | malformed (locator : String)
  | otherSource (source engine : String)
  | outside (destination : String)
deriving DecidableEq, Repr

structure Statement where
  locator : Locator
  raw : String
  destination : String
deriving DecidableEq, Repr

def read (e : Entry) : Except Obstacle Statement :=
  match e.field? "provider", e.field? "kind", e.field? "src", e.field? "dst" with
  | some provider, some kind, some src, some dst =>
    if provider != supportedProvider || kind != supportedKind then
      .error (.otherProvider provider kind)
    else match Locator.parse? src with
      | none => .error (.malformed src)
      | some l =>
        if l.source != supportedSource || l.engine != supportedEngine then
          .error (.otherSource l.source l.engine)
        else if isOutside dst then .error (.outside dst)
        else .ok ⟨l, src, dst⟩
  | _, _, _, _ => .error (.missing e.missing)

def Obstacle.remark (o : Obstacle) (file : Path) (label : String) : Log.Record :=
  let skipped (reason : String) : Log.Record :=
    ⟨Log.warningLevel, logSource,
      "Skipping secrets entry '" ++ label ++ "' in " ++ file.toString ++ ": " ++ reason⟩
  match o with
  | .missing fields => skipped ("missing " ++ ", ".intercalate fields)
  | .malformed locator => skipped ("malformed src '" ++ locator ++ "'")
  | .otherProvider provider kind =>
    ⟨Log.debugLevel, logSource,
      "Ignoring " ++ provider ++ "/" ++ kind ++ " entry '" ++ label ++ "'"⟩
  | .otherSource source engine =>
    ⟨Log.debugLevel, logSource,
      "Ignoring entry '" ++ label ++ "' with source " ++ source ++ ":" ++ engine⟩
  | .outside destination =>
    ⟨Log.warningLevel, logSource,
      "The dst " ++ destination ++ " is not under the project directory. It will be ignored."⟩

def key (e : Entry) (l : Locator) : Checked String :=
  match e.name with
  | some v =>
    if v.isTruthy then
      match v with
      | .string s => .ok s
      | v => .error [⟨[.field "key"], .notString, ⟨v.shown, v.typeName⟩⟩]
    else .ok l.name
  | none => .ok l.name

def secret (e : Entry) (file : Path) (s : Statement) : Except Failure SecretInfo :=
  match e.key s.locator with
  | .ok key => .ok ⟨key, s.locator, s.destination, s.raw, supportedProvider, supportedKind, file⟩
  | .error vs => .error (.invalid SecretInfo.recordName vs)

def extract (file : Path) (e : Entry) : Logged (Except Failure (Option SecretInfo)) :=
  match e.read with
  | .ok s => pure ((e.secret file s).map some)
  | .error o => ⟨.ok none, [o.remark file e.label]⟩

end Entry

def secretsOf (file : Path) : List Entry → Logged (Except Failure (List SecretInfo))
  | [] => pure (.ok [])
  | e :: es => do
    match ← e.extract file with
    | .error f => pure (.error f)
    | .ok found =>
      let rest ← secretsOf file es
      pure (rest.map (found.toList ++ ·))

def extractItems (file : Path) (items : List Toml) : Logged (Except Failure (List SecretInfo)) := do
  ⟨(), items.flatMap (remarksOn file)⟩
  secretsOf file (items.flatMap entriesOf)

def invalidToml (file : Path) (message : String) : Failure :=
  .problem (.plain .manifest ("Invalid TOML in " ++ file.toString ++ ": " ++ message) none)

def noArray (file : Path) : Failure :=
  .problem (.plain .manifest ("Missing top-level 'secrets' array in " ++ file.toString) none)

/-- A number with too many digits is no fault of the document's form. -/
def documentFailure (file : Path) (text : List Char) (f : Toml.Fault) : Failure :=
  match f.reason with
  | .fewerDigits _ => .unexpected "ValueError" f.reason.message
  | _ => invalidToml file (f.message text)

def extract (file : Path) (text : String) : Logged (Except Failure (List SecretInfo)) :=
  match Toml.parse text.toList with
  | .error f => pure (.error (documentFailure file text.toList f))
  | .ok entries => match entries.lookup "secrets" with
    | some (.array items) => extractItems file items
    | _ => pure (.error (noArray file))

def extractFile (t : Project) (file : Path) : Logged (Except Failure (List SecretInfo)) := do
  match ← t.readSource file with
  | .error f => pure (.error f)
  | .ok text => extract file text

end ConfigKeeper.Manifest
