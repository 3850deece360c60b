import ConfigKeeper.Log.Configuration
import ConfigKeeper.Yaml.Reader

/-!
Setting up logging for a run: from a configuration file, the program's own one if none is given, or
else in a plain form that always works.
-/

namespace ConfigKeeper.Log

def packagedText : String := "version: 1
disable_existing_loggers: false

formatters:
  simple:
    format: \"%(asctime)s - %(name)s - %(levelname)s - %(message)s\"
    datefmt: \"%Y-%m-%d %H:%M:%S\"

handlers:
  console:
    class: logging.StreamHandler
    level: WARNING
    formatter: simple
    stream: ext://sys.stderr

loggers:
  wukong_devconfig:
    level: INFO
    handlers: [console]
    propagate: false
  httpx:
    level: WARNING
    handlers: [console]
    propagate: false

root:
  level: WARNING
  handlers: [console]
"

def packageDirectory : Place := [Registry.package]

def configurationDirectory : Place := packageDirectory ++ ["config"]

def resources : Project where
  workingDirectory := configurationDirectory
  entries := [(packageDirectory, .directory), (configurationDirectory, .directory),
    (configurationDirectory ++ ["logging.yaml"], .file (Text.encodeUtf8 packagedText.toList))]

def resourcePath (name : String) : Except SetupFault Path :=
  let path := Path.ofString ((if name.isEmpty then "logging" else name) ++ ".yaml")
  match resources.isFile path with
  | .ok true => .ok path
  | .ok false => .error (.problem (.noConfiguration path))
  | .error e => .error (.problem (.unreadable path e))

/-- A text that is no document is a problem of its own; a scalar without a value is not. -/
def yamlFault (path : Path) (text : String) (f : Yaml.Fault) : SetupFault :=
  match f.reason with
  | .unreadable m => misfit m
  | _ => .problem (.invalidYaml path (f.message text.toList))

def parseConfig (path : Path) (text : String) : Except SetupFault Configuration :=
  match Yaml.parse text.toList with
  | .error f => .error (yamlFault path text f)
  | .ok (.table top, heap) => .ok ⟨top, heap⟩
  | .ok _ => .error (.problem (.notMapping path))

def loadConfiguration (t : Project) (path : Path) : Except SetupFault Configuration :=
  match t.readText path with
  | .ok text => parseConfig path text
  | .error (.file .nulInPath) => .error (.badValue FileError.nulInPath.message)
  | .error (.file e) => .error (.problem (.unreadable path e))
  | .error (.utf8 f) => .error (.undecodable f)

def loadConfig (t : Project) (path : Path) : Except SetupFault Yaml.Pairs :=
  (loadConfiguration t path).map Configuration.tree

structure Request where
  path : Option Path
  level : Option String
  plain : Bool

namespace Request

def level? (q : Request) : Option String := q.level.filter fun l => !l.isEmpty

def config (q : Request) (t : Project) : Except SetupFault (Path × Configuration) := do
  let (path, c) ← match q.path with
    | some path => do
      let c ← loadConfiguration t path
      pure (path, c)
    | none => do
      let path ← resourcePath ""
      let c ← loadConfiguration resources path
      pure (path, c)
  match q.level? with
  | some level => .ok (path, ← c.override level)
  | none => .ok (path, c)

end Request

def plainHandler : Handler :=
  ⟨"", "StreamHandler", 0, .standardError, percentFormatter standardFormat, []⟩

/-- Plain logging: one handler at the root. A level that has no name is taken as that of
information. -/
def setUpPlain (r : Registry) (level : Option String) : Registry :=
  let n := (levelNamed? (level.getD "INFO")).getD infoLevel
  { r with root := { r.root with level := n, handlers := [plainHandler] } }

def fallbackRecord (f : SetupFault) : Record :=
  ⟨warningLevel, "logging",
    "Failed to configure logging from file (" ++ f.message ++ "), using basic console logging"⟩

def configuredRecord (path : Path) : Record :=
  ⟨debugLevel, "logging", "Logging configured from: " ++ path.toString⟩

/-- The logging library. It applies a configuration, which may end early; closes the handlers of the
root before others take their place; and passes a record on to the handlers that it reaches. Classes
and factories that a configuration names have a part in all of these. -/
structure Library (ε : Type) where
  apply : Registry → Configuration → Registry × Option (Halt ε)
  close : Registry → Option (Halt ε)
  log : Registry → Record → Option (Halt ε)

namespace Library

def bare : Library Empty where
  apply r c := configure .bare r c.tree
  close _ := none
  log _ _ := none

variable {ε : Type} (lib : Library ε)

def setUpPlain (r : Registry) (level : Option String) : Except (Halt ε) Registry :=
  match lib.close r with
  | some h => .error h
  | none => .ok (Log.setUpPlain r level)

def passOn (r : Registry) (x : Record) : Except (Halt ε) (Registry × List Record) :=
  match lib.log r x with
  | some h => .error h
  | none => .ok (r, [x])

def fallBack (r : Registry) (q : Request) (h : Halt ε) : Except (Halt ε) (Registry × List Record) :=
  match h.caught? with
  | none => .error h
  | some f => lib.setUpPlain r q.level? >>= fun r => lib.passOn r (fallbackRecord f)

def setUp (r : Registry) (t : Project) (q : Request) : Except (Halt ε) (Registry × List Record) :=
  if q.plain then (lib.setUpPlain r q.level?).map fun r => (r, [])
  else match q.config t with
    | .error f => lib.fallBack r q (.fault f)
    | .ok (path, c) =>
      match lib.apply r c with
      | (r, none) => lib.passOn r (configuredRecord path)
      | (r, some h) => lib.fallBack r q h

end Library

def setUp (r : Registry) (t : Project) (q : Request) : Except SetupFault (Registry × List Record) :=
  (Library.bare.setUp r t q).mapError Halt.toFault

end ConfigKeeper.Log
