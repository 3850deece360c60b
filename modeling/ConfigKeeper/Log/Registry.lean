import ConfigKeeper.Json.Basic
import ConfigKeeper.Log.Level
import ConfigKeeper.Text.Split
import ConfigKeeper.Yaml.Basic

/-!
Loggers and their handlers. A logger is named by words with dots between them and stands below the
loggers that its first words name; a record goes to the handlers of its logger and, as long as none
of them says otherwise, to those of the loggers above it.
-/

namespace ConfigKeeper.Log

inductive Stream
  | standardError
  | standardOutput
  | elsewhere
deriving DecidableEq, Repr

abbrev Formatter := String → Record → Option String

abbrev Filter := Record → Bool

/-- Handlers of one name are the same. -/
structure Handler where
  name : String
  className : String
  level : Int
  stream : Stream
  format : Formatter
  filters : List Filter

/-- A logger without a level of its own takes that of the logger above it. Whether records go on
upwards may be given by any value. -/
structure Logger where
  level : Int
  handlers : List Handler
  propagates : Yaml
  disabled : Bool
  filters : List Filter

def Logger.fresh : Logger := ⟨0, [], .bool true, false, []⟩

structure Registry where
  root : Logger
  loggers : List (String × Logger)

namespace Registry

def package : String := "wukong_devconfig"

def parts : List String := [
  "annotations", "cli.errors", "cli.lint", "cli.sync", "discovery", "extractors.elixir_config",
  "extractors.manifest", "formatting", "lint.engine", "logging", "parser", "secret_store", "sync"]

def loggerName (source : String) : String := package ++ "." ++ source

def initial : Registry where
  root := { Logger.fresh with level := warningLevel }
  loggers := (package :: "httpx" :: parts.map loggerName).map fun name => (name, .fresh)

def logger (r : Registry) (name : String) : Logger := (r.loggers.lookup name).getD .fresh

def setLogger (r : Registry) (name : String) (l : Logger) : Registry :=
  { r with loggers := Json.put r.loggers name l }

def isBelow (name upper : String) : Bool := Text.startsWith (upper ++ ".").toList name.toList

def chain (words : List String) : List String :=
  ((List.range words.length).reverse).map fun n => ".".intercalate (words.take (n + 1))

def lineage (r : Registry) (name : String) : List Logger :=
  (chain (splitOnChar '.' name)).map r.logger ++ [r.root]

def effectiveLevel (ls : List Logger) : Int :=
  ((ls.find? fun l => l.level != 0).map Logger.level).getD 0

def reached : List Logger → List Handler
  | [] => []
  | l :: ls => l.handlers ++ if l.propagates.isTruthy then reached ls else []

def nameFilter (name : String) : Filter := fun x =>
  name.isEmpty || loggerName x.source = name || isBelow (loggerName x.source) name

def accepts (l : Logger) (ls : List Logger) (x : Record) : Bool :=
  !l.disabled && x.level != 0 && effectiveLevel (l :: ls) ≤ x.level && l.filters.all (· x)

def handlersFor (r : Registry) (x : Record) : List Handler :=
  match r.lineage (loggerName x.source) with
  | [] => []
  | l :: ls =>
    if accepts l ls x then (reached (l :: ls)).filter fun h => h.level ≤ x.level && h.filters.all (· x)
    else []

end Registry

/- Formats. -/

def fields (time : String) (x : Record) : List (String × String) := [
  ("%(asctime)s", time), ("%(name)s", Registry.loggerName x.source),
  ("%(levelname)s", levelText x.level), ("%(levelno)s", toString x.level),
  ("%(levelno)d", toString x.level), ("%(message)s", x.text), ("%%", "%")]

def filled (fs : List (String × String)) : Nat → List Char → Option (List Char)
  | _, [] => some []
  | skip + 1, _ :: r => filled fs skip r
  | 0, c :: r =>
    match fs.find? fun f => Text.startsWith f.1.toList (c :: r) with
    | some f => (filled fs (f.1.length - 1) r).map (f.2.toList ++ ·)
    | none => if c = '%' then none else (filled fs 0 r).map (c :: ·)

def standardFormat : String := "%(asctime)s - %(name)s - %(levelname)s - %(message)s"

def bareFormat : String := "%(message)s"

def percentFormatter (format : String) : Formatter := fun time x =>
  (filled (fields time x) 0 format.toList).map String.ofList

def Registry.lines (r : Registry) (stream : Stream) (time : String) (x : Record) : List String :=
  ((r.handlersFor x).filter fun h => h.stream = stream).filterMap fun h => h.format time x

end ConfigKeeper.Log
