import ConfigKeeper.Yaml.Basic

/-!
Values whose tables and lists may stand in several places. Each has a number, by which it is named where
it stands, so a change of a table shows wherever the table does.
-/

namespace ConfigKeeper.Yaml

/-- A value of another type is given by what it is made of. -/
inductive Item
  | leaf (v : Yaml)
  | table (id : Nat)
  | list (id : Nat)
  | other (typeName : String) (parts : List Item)
deriving Repr

abbrev Table := List (Yaml × Item)

structure Heap where
  tables : Nat → Table
  lists : Nat → List Item
  size : Nat

def Item.typeName : Item → String
  | .leaf v => v.typeName
  | .table _ => "dict"
  | .list _ => "list"
  | .other name _ => name

namespace Heap

def empty : Heap := ⟨fun _ => [], fun _ => [], 0⟩

def change (h : Heap) (id : Nat) (f : Table → Table) : Heap :=
  { h with tables := fun i => if i = id then f (h.tables i) else h.tables i }

@[simp] theorem tables_change_self (h : Heap) (id : Nat) (f : Table → Table) :
    (h.change id f).tables id = f (h.tables id) := if_pos rfl

theorem tables_change_of_ne (h : Heap) {i id : Nat} (hi : i ≠ id) (f : Table → Table) :
    (h.change id f).tables i = h.tables i := if_neg hi

/-- A value as a tree, `depth` tables and lists deep. What is deeper than that is empty: with as many
as there are, only a table inside itself is. -/
def tree (h : Heap) : Nat → Item → Yaml
  | _, .leaf v => v
  | 0, .table _ => .mapping []
  | 0, _ => .list []
  | depth + 1, .table id => .mapping ((h.tables id).map fun p => (p.1, h.tree depth p.2))
  | depth + 1, .list id => .list ((h.lists id).map (h.tree depth))
  | depth + 1, .other _ parts => .list (parts.map (h.tree depth))

def addTable (h : Heap) (table : Table) : Item × Heap :=
  (.table h.size, { h with tables := fun i => if i = h.size then table else h.tables i, size := h.size + 1 })

def addList (h : Heap) (items : List Item) : Item × Heap :=
  (.list h.size, { h with lists := fun i => if i = h.size then items else h.lists i, size := h.size + 1 })

mutual

def add (h : Heap) : Yaml → Item × Heap
  | .mapping pairs => let (table, h) := h.addPairs pairs; h.addTable table
  | .list items => let (items, h) := h.addAll items; h.addList items
  | v => (.leaf v, h)

def addAll (h : Heap) : List Yaml → List Item × Heap
  | [] => ([], h)
  | v :: vs =>
    let (item, h) := h.add v
    let (items, h) := h.addAll vs
    (item :: items, h)

def addPairs (h : Heap) : List (Yaml × Yaml) → Table × Heap
  | [] => ([], h)
  | (k, v) :: ps =>
    let (item, h) := h.add v
    let (table, h) := h.addPairs ps
    ((k, item) :: table, h)

end

end Heap

end ConfigKeeper.Yaml
