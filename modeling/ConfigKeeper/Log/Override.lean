import ConfigKeeper.Log.Level
import ConfigKeeper.Log.Problem
import ConfigKeeper.Yaml.Heap

/-!
Giving all loggers of a configuration one level. Handlers are only ever made more verbose by it. The
levels are written into the tables themselves.
-/

namespace ConfigKeeper.Log

open Yaml (Heap Item Table)

def loggersKey : String := "loggers"
def handlersKey : String := "handlers"
def rootKey : String := "root"
def levelKey : String := "level"

structure Configuration where
  top : Nat
  heap : Heap

namespace Configuration

def part? (c : Configuration) (name : String) : Option Item := Yaml.find? (c.heap.tables c.top) name

/-- The configuration as a tree, in which a table that stands in several places is several. -/
def tree (c : Configuration) : Yaml.Pairs :=
  match c.heap.tree (c.heap.size + 1) (.table c.top) with
  | .mapping pairs => pairs
  | _ => []

def ofTree (pairs : Yaml.Pairs) : Configuration :=
  let (table, h) := Heap.empty.addPairs pairs
  ⟨h.size, (h.addTable table).2⟩

/-- The values of a section; one that is not there has none. -/
def values (c : Configuration) (name : String) : Except SetupFault (List Item) :=
  match c.part? name with
  | none => .ok []
  | some (.table id) => .ok ((c.heap.tables id).map Prod.snd)
  | some v => .error (.noAttribute ("'" ++ v.typeName ++ "' object has no attribute 'values'"))

def loggers (c : Configuration) : Except SetupFault (List Item) :=
  (c.values loggersKey).map fun items => items ++ (c.part? rootKey).toList

end Configuration

def resolveLevel (name : String) : Except SetupFault Nat :=
  match levelNamed? name with
  | some n => .ok n
  | none => .error (.problem (.unknownLevel name))

def putLevel (level : Nat) (t : Table) : Table := Yaml.put t (.string levelKey) (.leaf (.string (levelText level)))

def overrideLogger (level : Nat) (h : Heap) : Item → Except SetupFault Heap
  | .table id => .ok (h.change id (putLevel level))
  | .list _ => .error (.badType "list indices must be integers or slices, not str")
  | v => .error (.badType ("'" ++ v.typeName ++ "' object does not support item assignment"))

def levelNamedBy? : Item → Option Nat
  | .leaf v => levelNamed? v.text
  | _ => none

/-- A handler with a level above the new one takes that; what is no table, or has no level, stays. -/
def overrideHandler (level : Nat) (h : Heap) : Item → Except SetupFault Heap
  | .table id =>
    match Yaml.find? (h.tables id) levelKey with
    | none => .ok h
    | some old => match levelNamedBy? old with
      | some n => .ok (if level < n then h.change id (putLevel level) else h)
      | none => .error (.badType "'<' not supported between instances of 'int' and 'str'")
  | _ => .ok h

def Configuration.override (c : Configuration) (name : String) : Except SetupFault Configuration := do
  let level ← resolveLevel name
  let loggers ← c.loggers
  let heap ← loggers.foldlM (overrideLogger level) c.heap
  let handlers ← Configuration.values ⟨c.top, heap⟩ handlersKey
  let heap ← handlers.foldlM (overrideHandler level) heap
  .ok ⟨c.top, heap⟩

/-- The same for a configuration in which no table stands twice. -/
def overrideLevels (config : Yaml.Pairs) (name : String) : Except SetupFault Yaml.Pairs :=
  ((Configuration.ofTree config).override name).map Configuration.tree

end ConfigKeeper.Log
