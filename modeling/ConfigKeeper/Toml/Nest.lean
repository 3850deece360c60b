import ConfigKeeper.Toml.Fault

/-!
Tables inside tables. A key leads to a value through tables, which are made where they are missing;
marks tell which tables may no longer be declared or changed.
-/

namespace ConfigKeeper.Toml

/-- Changes the table that a key leads to. Where `throughArrays` holds an array stands for its last
table; anything else that is no table ends the way. -/
def alter (throughArrays : Bool) (f : Entries → Option Entries) : Key → Entries → Option Entries
  | [], t => f t
  | name :: more, t =>
    match t.lookup name with
    | none => (alter throughArrays f more []).map fun inner => Json.put t name (.table inner)
    | some (.table inner) =>
      (alter throughArrays f more inner).map fun inner => Json.put t name (.table inner)
    | some (.array items) =>
      if throughArrays then
        match items.reverse with
        | .table inner :: before =>
          (alter throughArrays f more inner).map fun inner =>
            Json.put t name (.array (before.reverse ++ [.table inner]))
        | _ => none
      else none
    | some _ => none

def appendTable (name : String) (t : Entries) : Option Entries :=
  match t.lookup name with
  | none => some (Json.put t name (.array [.table []]))
  | some (.array items) => some (Json.put t name (.array (items ++ [.table []])))
  | some _ => none

def insertNew (name : String) (v : Toml) (t : Entries) : Option Entries :=
  match t.lookup name with
  | none => some (Json.put t name v)
  | some _ => none

def cutLast : Key → Key × String
  | [] => ([], "")
  | [name] => ([], name)
  | name :: more => let (parent, last) := cutLast more; (name :: parent, last)

/-- Keys of declared tables, those to be declared when the next table begins, and keys below which
nothing changes any more. -/
structure Marks where
  declared : List Key
  pending : List Key
  frozen : List Key
deriving DecidableEq, Repr

namespace Marks

def empty : Marks := ⟨[], [], []⟩

def isDeclared (m : Marks) (key : Key) : Bool := m.declared.contains key

def isFrozen (m : Marks) (key : Key) : Bool := m.frozen.any fun k => k.isPrefixOf key

def declare (m : Marks) (key : Key) : Marks := { m with declared := key :: m.declared }

def postpone (m : Marks) (keys : List Key) : Marks := { m with pending := keys ++ m.pending }

def freeze (m : Marks) (key : Key) : Marks := { m with frozen := key :: m.frozen }

def settle (m : Marks) : Marks := { m with declared := m.pending ++ m.declared, pending := [] }

def forget (m : Marks) (key : Key) : Marks :=
  { m with
    declared := m.declared.filter fun k => !key.isPrefixOf k
    frozen := m.frozen.filter fun k => !key.isPrefixOf k }

end Marks

structure Document where
  root : Entries
  marks : Marks
  header : Key
deriving Repr

namespace Document

def empty : Document := ⟨[], .empty, []⟩

def orOverwritten {α : Type} : Option α → Except Reason α
  | some a => .ok a
  | none => .error .overwritten

def openTable (d : Document) (key : Key) : Except Reason Document := do
  let marks := d.marks.settle
  if marks.isDeclared key || marks.isFrozen key then .error (.declaredTwice key)
  else
    let root ← orOverwritten (alter true some key d.root)
    .ok ⟨root, marks.declare key, key⟩

def openItem (d : Document) (key : Key) : Except Reason Document := do
  let marks := d.marks.settle
  if marks.isFrozen key then .error (.immutable key)
  else
    let (parent, name) := cutLast key
    let root ← orOverwritten (alter true (appendTable name) parent d.root)
    .ok ⟨root, (marks.forget key).declare key, key⟩

def between (header : Key) (key : Key) : List Key :=
  (List.range (key.length - 1)).map fun i => header ++ key.take (i + 1)

def insert (d : Document) (key : Key) (v : Toml) : Except Reason Document := do
  let (parent, name) := cutLast key
  let parent := d.header ++ parent
  let passed := between d.header key
  match passed.find? d.marks.isDeclared with
  | some k => .error (.redefined k)
  | none =>
    if d.marks.isFrozen parent then .error (.immutable parent)
    else
      let root ← orOverwritten (alter true (insertNew name v) parent d.root)
      let marks := d.marks.postpone passed
      .ok ⟨root, if v.isContainer then marks.freeze (d.header ++ key) else marks, d.header⟩

end Document

/-- Gives a key of an inline table its value; `frozen` holds the keys that are complete. -/
def insertInline (frozen : List Key) (key : Key) (v : Toml) (t : Entries) : Except Reason Entries :=
  if frozen.any fun k => k.isPrefixOf key then .error (.immutable key)
  else
    let (parent, name) := cutLast key
    match alter false some parent t with
    | none => .error .overwritten
    | some t => match alter false (insertNew name v) parent t with
      | some t => .ok t
      | none => .error (.duplicate name)

end ConfigKeeper.Toml
