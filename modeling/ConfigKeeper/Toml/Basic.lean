import ConfigKeeper.Calendar.Moment
import ConfigKeeper.Json.Basic

namespace ConfigKeeper

inductive Toml
  | string (s : String)
  | int (n : Int)
  | float (x : Double)
  | bool (b : Bool)
  | moment (m : Moment)
  | array (items : List Toml)
  | table (entries : List (String × Toml))
deriving Repr

namespace Toml

abbrev Entries := List (String × Toml)

mutual

def same : Toml → Toml → Bool
  | .string s, .string t => s = t
  | .int m, .int n => m = n
  | .float x, .float y => x = y
  | .bool a, .bool b => a = b
  | .moment m, .moment n => m = n
  | .array xs, .array ys => sameItems xs ys
  | .table xs, .table ys => sameEntries xs ys
  | _, _ => false

def sameItems : List Toml → List Toml → Bool
  | [], [] => true
  | x :: xs, y :: ys => same x y && sameItems xs ys
  | _, _ => false

def sameEntries : List (String × Toml) → List (String × Toml) → Bool
  | [], [] => true
  | (a, x) :: xs, (b, y) :: ys => a = b && (same x y && sameEntries xs ys)
  | _, _ => false

end

mutual

theorem same_iff : ∀ x y : Toml, same x y = true ↔ x = y
  | .array xs, y => by cases y <;> simp [same, sameItems_iff]
  | .table xs, y => by cases y <;> simp [same, sameEntries_iff]
  | .string _, y | .int _, y | .float _, y | .bool _, y | .moment _, y => by cases y <;> simp [same]

theorem sameItems_iff : ∀ xs ys : List Toml, sameItems xs ys = true ↔ xs = ys
  | [], ys => by cases ys <;> simp [sameItems]
  | x :: xs, ys => by cases ys <;> simp [sameItems, same_iff x, sameItems_iff xs]

theorem sameEntries_iff : ∀ xs ys : List (String × Toml), sameEntries xs ys = true ↔ xs = ys
  | [], ys => by cases ys <;> simp [sameEntries]
  | (a, x) :: xs, ys => by
    rcases ys with _ | ⟨⟨b, y⟩, ys⟩ <;> simp [sameEntries, same_iff x, sameEntries_iff xs, and_assoc]

end

instance : DecidableEq Toml := fun x y => decidable_of_decidable_of_iff (same_iff x y)

def string? : Toml → Option String
  | .string s => some s
  | _ => none

def entries? : Toml → Option Entries
  | .table t => some t
  | _ => none

def isContainer : Toml → Bool
  | .array _ | .table _ => true
  | _ => false

def isTruthy : Toml → Bool
  | .string s => !s.isEmpty
  | .int n => n != 0
  | .float x => !x.isZero
  | .bool b => b
  | .moment _ => true
  | .array items => !items.isEmpty
  | .table entries => !entries.isEmpty

mutual

def shown : Toml → String
  | .string s => quoted s
  | .int n => toString n
  | .float x => x.toText
  | .bool b => if b then "True" else "False"
  | .moment m => m.shown
  | .array items => "[" ++ ", ".intercalate (shownAll items) ++ "]"
  | .table entries => "\x7b" ++ ", ".intercalate (shownEntries entries) ++ "\x7d"

def shownAll : List Toml → List String
  | [] => []
  | v :: vs => shown v :: shownAll vs

def shownEntries : List (String × Toml) → List String
  | [] => []
  | (name, v) :: es => (quoted name ++ ": " ++ shown v) :: shownEntries es

end

def text : Toml → String
  | .string s => s
  | .moment m => m.text
  | v => v.shown

def typeName : Toml → String
  | .string _ => "str"
  | .int _ => "int"
  | .float _ => "float"
  | .bool _ => "bool"
  | .moment m => m.typeName
  | .array _ => "list"
  | .table _ => "dict"

end Toml

end ConfigKeeper
