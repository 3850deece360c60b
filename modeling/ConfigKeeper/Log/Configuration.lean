import ConfigKeeper.Log.Override
import ConfigKeeper.Log.Reference

/-!
Applying a logging configuration to the loggers. Formatters, filters and handlers are made first,
then each logger is set up, and the root last; what was done before a fault stays done. Every value
may be a reference. Parts that name a factory, or a class that is not one of those here, are made by the
runtime.
-/

namespace ConfigKeeper.Log

open Yaml (Pairs)

def versionKey : String := "version"
def incrementalKey : String := "incremental"
def disableKey : String := "disable_existing_loggers"
def formattersKey : String := "formatters"
def filtersKey : String := "filters"
def factoryKey : String := "()"
def attributesKey : String := "."

def unable (what : String) (name : Yaml) : SetupFault :=
  .badValue ("Unable to configure " ++ what ++ " " ++ name.shown)

def notIterable (v : Yaml) : SetupFault :=
  .badType ("'" ++ v.typeName ++ "' object is not iterable")

/-- A section that is looked for and is not there is an empty one from then on. -/
def entered (config : Pairs) (key : String) : Pairs :=
  if (Yaml.find? config key).isSome then config else Yaml.put config (.string key) (.mapping [])

/-- Stands for a part that is made. No configuration holds a time of day. -/
def madePart : Yaml := .moment (.clock ⟨0, 0, 0, 0⟩)

def withMade (config : Pairs) (key : String) : Pairs :=
  match Yaml.find? config key with
  | some (.mapping pairs) =>
    Yaml.put config (.string key) (.mapping (pairs.map fun p => (p.1, madePart)))
  | _ => config

section Parts

variable {ε α : Type} (rt : Runtime ε)

def section_ (config : Pairs) (key : String) : Except (Halt ε) Pairs :=
  part rt config config key >>= fun
  | none => .ok []
  | some (.mapping pairs) => .ok pairs
  | some (.list items) => .ok (items.map fun v => (v, .null))
  | some (.string s) =>
    if isObject s then .error (.fault (.badValue "not readable"))
    else .ok (s.toList.map fun c => (.string (String.singleton c), .null))
  | some v => .error (.fault (notIterable v))

def makeAll (what : String) (make : Yaml → Pairs → Except (Halt ε) α) (config : Pairs) :
    Pairs → Except (Halt ε) (List (Yaml × α))
  | [] => .ok []
  | (name, v) :: ps => do
    let a ← (pairsIn rt config v >>= make name).mapError (rt.wrapped (unable what name))
    let rest ← makeAll what make config ps
    .ok ((name, a) :: rest)

def lookUp (made : List (Yaml × α)) (name : Yaml) : Except (Halt ε) α :=
  match made.find? fun e => Yaml.sameKey e.1 name with
  | some e => .ok e.2
  | none => .error (.fault (.badKey name.shown))

/- Formatters and filters. -/

def conversions : List Char := "diouxefgcrsa%".toList

def beginsField : List Char → Bool
  | '%' :: '(' :: r =>
    let name := r.takeWhile fun c => c != ')'
    let rest := (r.drop (name.length + 1)).dropWhile fun c => "#0+ -123456789.*".toList.contains c
    !name.isEmpty && (rest.head?.map fun c => conversions.contains c.toLower).getD false
  | _ => false

def hasField : List Char → Bool
  | [] => false
  | c :: r => beginsField (c :: r) || hasField r

/-- A format is a text with a field in it, unless that is not asked for. What is no text gives no lines. -/
def percentFormat (checked : Bool) (v : Option Yaml) : Except (Halt ε) Formatter :=
  match v with
  | none => .ok (percentFormatter bareFormat)
  | some (.string s) =>
    if s.isEmpty then .ok (percentFormatter bareFormat)
    else if !checked || hasField s.toList then .ok (percentFormatter s)
    else .error (.fault (.badValue ("Invalid format " ++ quoted s ++ " for '%' style")))
  | some v =>
    if !v.isTruthy then .ok (percentFormatter bareFormat)
    else if checked then .error (.fault (.badType "expected string or bytes-like object"))
    else .ok fun _ _ => none

/-- In all styles the bare format is the same. -/
def isPercentStyle (style : Option Yaml) (format : Option Yaml) : Bool :=
  match style with
  | none => true
  | some (.string s) => s = "%" || ((s = "\x7b" || s = "$") && !(format.elim false Yaml.isTruthy))
  | some _ => false

def isFormatterClass : Option Yaml → Bool
  | none => true
  | some (.string s) => s.isEmpty || s = "logging.Formatter"
  | some v => !v.isTruthy

def formatter (config : Pairs) (_ : Yaml) (pairs : Pairs) : Except (Halt ε) Formatter :=
  if (Yaml.find? pairs factoryKey).isSome then rt.formatter config pairs
  else do
    let format ← part rt config pairs "format"
    let _ ← part rt config pairs "datefmt"
    let style ← part rt config pairs "style"
    let formatterClass ← part rt config pairs "class"
    let checked ← part rt config pairs "validate"
    if isPercentStyle style format && isFormatterClass formatterClass then
      percentFormat (checked.elim true Yaml.isTruthy) format
    else rt.formatter config pairs

def filter (config : Pairs) (_ : Yaml) (pairs : Pairs) : Except (Halt ε) Filter :=
  if (Yaml.find? pairs factoryKey).isSome then rt.filter config pairs
  else do
    match ← part rt config pairs "name" with
    | none => .ok (Registry.nameFilter "")
    | some (.string s) => .ok (Registry.nameFilter s)
    | some _ => rt.filter config pairs

/- Handlers. -/

def checkedLevel : Yaml → Except (Halt ε) Int
  | .int n => .ok n
  | .bool b => .ok (if b then 1 else 0)
  | .string s => match levelOf? s with
    | some n => .ok n
    | none => .error (.fault (.badValue ("Unknown level: " ++ quoted s)))
  | v => .error (.fault (.badType ("Level not an integer or a valid string: " ++ v.shown)))

/-- A level that is null counts as missing. -/
def ownLevel (config pairs : Pairs) (default : Int) : Except (Halt ε) Int := do
  match ← part rt config pairs levelKey with
  | none | some .null => .ok default
  | some v => checkedLevel v

def handlerKeys : List String := ["formatter", levelKey, filtersKey, "class"]

def argumentNames (pairs : Pairs) : List String :=
  pairs.filterMap fun p => match p.1 with
    | .string s => if handlerKeys.contains s then none else some s
    | _ => none

def streamOf : Option Yaml → Stream
  | none | some .null => .standardError
  | some (.string s) =>
    if s = objectText standardError then .standardError
    else if s = objectText standardOutput then .standardOutput
    else .elsewhere
  | some _ => .elsewhere

def handlerBase (config pairs : Pairs) : Except (Halt ε) (String × Stream) :=
  if (Yaml.find? pairs factoryKey).isSome || (Yaml.find? pairs attributesKey).isSome then
    rt.handler config pairs
  else do
    match ← part rt config pairs "class", argumentNames pairs with
    | none, _ => .error (.fault (.badKey "'class'"))
    | some (.string "logging.StreamHandler"), [] => .ok ("StreamHandler", .standardError)
    | some (.string "logging.StreamHandler"), ["stream"] =>
      .ok ("StreamHandler", streamOf (← part rt config pairs "stream"))
    | some (.string "logging.NullHandler"), [] => .ok ("NullHandler", .elsewhere)
    | _, _ => rt.handler config pairs

def names (v : Option Yaml) : Except (Halt ε) (List Yaml) :=
  match v with
  | none => .ok []
  | some (.list items) => .ok items
  | some (.string s) => .ok (s.toList.map fun c => .string (String.singleton c))
  | some (.mapping pairs) => .ok (pairs.map Prod.fst)
  | some v => if v.isTruthy then .error (.fault (notIterable v)) else .ok []

def filtersOf (filters : List (Yaml × Filter)) (v : Option Yaml) : Except (Halt ε) (List Filter) :=
  names v >>= fun ns => ns.mapM (lookUp filters)

def formatterOf (formatters : List (Yaml × Formatter)) (config pairs : Pairs) : Except (Halt ε) Formatter := do
  match ← part rt config pairs "formatter" with
  | none => .ok (percentFormatter bareFormat)
  | some v => if v.isTruthy then lookUp formatters v else .ok (percentFormatter bareFormat)

def handler (formatters : List (Yaml × Formatter)) (filters : List (Yaml × Filter)) (config : Pairs)
    (name : Yaml) (pairs : Pairs) : Except (Halt ε) Handler := do
  let format ← formatterOf rt formatters config pairs
  let named ← part rt config pairs filtersKey
  let (className, stream) ← handlerBase rt config pairs
  let level ← ownLevel rt config pairs 0
  let passed ← filtersOf filters named
  .ok ⟨name.text, className, level, stream, format, passed⟩

end Parts

/- Loggers. -/

structure Made where
  handlers : List (Yaml × Handler)
  filters : List (Yaml × Filter)

def addHandler (hs : List Handler) (h : Handler) : List Handler :=
  if hs.any fun x => x.name = h.name then hs else hs ++ [h]

section Loggers

variable {ε : Type} (rt : Runtime ε)

def addHandlers (made : List (Yaml × Handler)) : List Handler → List Yaml → List Handler × Option (Halt ε)
  | hs, [] => (hs, none)
  | hs, n :: ns =>
    match lookUp made n with
    | .ok h => addHandlers made (addHandler hs h) ns
    | .error f => (hs, some f)

def setUpLogger (m : Made) (config : Pairs) (l : Logger) (pairs : Pairs) : Logger × Option (Halt ε) :=
  match ownLevel rt config pairs l.level with
  | .error f => (l, some f)
  | .ok level =>
    let l := { l with level := level, handlers := [] }
    match part rt config pairs handlersKey >>= names with
    | .error f => (l, some f)
    | .ok ns =>
      match addHandlers m.handlers [] ns with
      | (hs, some f) => ({ l with handlers := hs }, some f)
      | (hs, none) =>
        let l := { l with handlers := hs }
        match part rt config pairs filtersKey >>= filtersOf m.filters with
        | .ok fs => ({ l with filters := l.filters ++ fs }, none)
        | .error f => (l, some f)

def setLoggerLevel (config : Pairs) (l : Logger) (pairs : Pairs) : Logger × Option (Halt ε) :=
  match ownLevel rt config pairs l.level with
  | .error f => (l, some f)
  | .ok level => ({ l with level := level }, none)

def finishLogger (config : Pairs) (l : Logger) (pairs : Pairs) : Logger × Option (Halt ε) :=
  let l := { l with disabled := false }
  match part rt config pairs "propagate" with
  | .error f => (l, some f)
  | .ok none | .ok (some .null) => (l, none)
  | .ok (some v) => ({ l with propagates := v }, none)

abbrev SetUp (ε : Type) := Pairs → Logger → Pairs → Logger × Option (Halt ε)

def applyLogger (f : SetUp ε) (config : Pairs) (l : Logger) (v : Yaml) : Logger × Option (Halt ε) :=
  match pairsIn rt config v with
  | .error h => (l, some h)
  | .ok pairs => match f config l pairs with
    | (l, none) => finishLogger rt config l pairs
    | (l, some h) => (l, some h)

def applyLoggers (f : SetUp ε) (config : Pairs) : Registry → Pairs → Registry × Option (Halt ε)
  | r, [] => (r, none)
  | r, (name, v) :: ps =>
    match name with
    | .string s => match applyLogger rt f config (r.logger s) v with
      | (l, none) => applyLoggers f config (r.setLogger s l) ps
      | (l, some h) => (r.setLogger s l, some (rt.wrapped (unable "logger" name) h))
    | _ => (r, some (.fault (unable "logger" name)))

def unableRoot : SetupFault := .badValue "Unable to configure root logger"

def applyRoot (f : SetUp ε) (config : Pairs) (r : Registry) : Registry × Option (Halt ε) :=
  match part rt config config rootKey with
  | .error h => (r, some h)
  | .ok none => (r, none)
  | .ok (some v) =>
    if !v.isTruthy then (r, none)
    else match v with
      | .mapping pairs =>
        let (l, fault) := f config r.root pairs
        ({ r with root := l }, fault.map (rt.wrapped unableRoot))
      | _ => (r, some (.fault unableRoot))

end Loggers

/-- Loggers that were there and are not named: those below a named one are reset, the others are
disabled or not. -/
def settleOthers (before : Registry) (named : List String) (disable : Bool) (r : Registry) :
    Registry :=
  let others := (before.loggers.map Prod.fst).filter fun n => !named.contains n
  others.foldl (fun r n =>
    let l := r.logger n
    let isKept :=
      named.any fun upper => Registry.isBelow n upper && (before.loggers.lookup upper).isSome
    r.setLogger n (if isKept then { l with level := 0, handlers := [], propagates := .bool true }
      else { l with disabled := disable })) r

def namesOf (pairs : Pairs) : List String :=
  pairs.filterMap fun p => match p.1 with | .string s => some s | _ => none

def orderKind? : Yaml → Option String
  | .null | .mapping _ => none
  | .bool _ | .int _ | .float _ => some "number"
  | .moment (.both _ _ (some _)) => some "datetime.datetime with an offset"
  | v => some v.typeName

def areOrdered (v w : Yaml) : Bool := (orderKind? v).isSome && orderKind? v == orderKind? w

def inOrder (pairs : Pairs) : Except SetupFault Pairs :=
  match (pairs.zip pairs.tail).find? fun (p, q) => !areOrdered p.1 q.1 with
  | some (p, q) =>
    .error (.badType ("'<' not supported between instances of '" ++ q.1.typeName ++ "' and '" ++
      p.1.typeName ++ "'"))
  | none => .ok (pairs.mergeSort fun p q => decide (p.1.text ≤ q.1.text))

section Apply

variable {ε : Type} (rt : Runtime ε)

def makeParts (config : Pairs) : Except (Halt ε) (Made × Pairs) := do
  let config := entered config formattersKey
  let formatters ← makeAll rt "formatter" (formatter rt config) config (← section_ rt config formattersKey)
  let config := entered (withMade config formattersKey) filtersKey
  let filters ← makeAll rt "filter" (filter rt config) config (← section_ rt config filtersKey)
  let config := entered (withMade config filtersKey) handlersKey
  let names ← (inOrder (← section_ rt config handlersKey)).mapError Halt.fault
  let handlers ← makeAll rt "handler" (handler rt formatters filters config) config names
  .ok (⟨handlers, filters⟩, withMade config handlersKey)

def applyWhole (r : Registry) (disable : Bool) (config : Pairs) : Registry × Option (Halt ε) :=
  match makeParts rt config with
  | .error h => (r, some h)
  | .ok (made, config) =>
    let config := entered config loggersKey
    match section_ rt config loggersKey with
    | .error h => (r, some h)
    | .ok loggers =>
      match applyLoggers rt (setUpLogger rt made) config r loggers with
      | (r', some h) => (r', some h)
      | (r', none) =>
        applyRoot rt (setUpLogger rt made) config (settleOthers r (namesOf loggers) disable r')

/-- A configuration that only changes levels; it can name no handlers, for none is known by name. -/
def applyLevels (r : Registry) (config : Pairs) : Registry × Option (Halt ε) :=
  let config := entered config handlersKey
  match section_ rt config handlersKey with
  | .error h => (r, some h)
  | .ok ((name, _) :: _) =>
    (r, some (.fault (if name.isScalar then .badValue ("No handler found with name " ++ name.shown)
      else .badType ("unhashable type: '" ++ name.typeName ++ "'"))))
  | .ok [] =>
    let config := entered config loggersKey
    match section_ rt config loggersKey with
    | .error h => (r, some h)
    | .ok loggers =>
      match applyLoggers rt (setLoggerLevel rt) config r loggers with
      | (r, some h) => (r, some h)
      | (r, none) => applyRoot rt (setLoggerLevel rt) config r

def isVersionOne (v : Yaml) : Bool := Yaml.sameKey v (.int 1)

def takeFlag (config : Pairs) (name : String) (default : Bool) : Except (Halt ε) (Bool × Pairs) :=
  let rest := Yaml.without config name
  (part rt rest config name).map fun v => (v.elim default Yaml.isTruthy, rest)

def checkVersion (config : Pairs) : Except (Halt ε) Unit :=
  part rt config config versionKey >>= fun
  | none => .error (.fault (.badValue "dictionary doesn't specify a version"))
  | some v =>
    if isVersionOne v then .ok ()
    else .error (.fault (.badValue ("Unsupported version: " ++ v.text)))

def configure (r : Registry) (config : Pairs) : Registry × Option (Halt ε) :=
  match checkVersion rt config >>= fun _ => takeFlag rt config incrementalKey false with
  | .error h => (r, some h)
  | .ok (true, config) => applyLevels rt r config
  | .ok (false, config) =>
    match takeFlag rt config disableKey true with
    | .error h => (r, some h)
    | .ok (disable, config) => applyWhole rt r disable config

end Apply

end ConfigKeeper.Log
