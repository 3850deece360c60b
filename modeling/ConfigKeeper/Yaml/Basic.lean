import ConfigKeeper.Calendar.Moment
import ConfigKeeper.Decimal.Double

/-!
Values of YAML documents. A mapping keeps its pairs in order; its keys are scalars, and equal
numbers are the same key.
-/

namespace ConfigKeeper

inductive Yaml
  | null
  | bool (b : Bool)
  | int (n : Int)
  | float (x : Double)
  | string (s : String)
  | moment (m : Moment)
  | list (items : List Yaml)
  | mapping (pairs : List (Yaml × Yaml))
deriving Repr

namespace Yaml

inductive Misfit
  | word (text : String)
  | digits (base : Nat) (text : String)
  | manyDigits (count : Nat)
  | decimal (text : String)
  | nothing
  | manyParts
  | noMoment
  | moment (reason : String)
  | character (number : Nat)
deriving DecidableEq, Repr

abbrev Pairs := List (Yaml × Yaml)

def isScalar : Yaml → Bool
  | .list _ | .mapping _ => false
  | _ => true

def number? : Yaml → Option Double
  | .bool b => some (Double.ofInt (if b then 1 else 0))
  | .int n => some (Double.ofInt n)
  | .float x => some x
  | _ => none

def sameKey : Yaml → Yaml → Bool
  | .null, .null => true
  | .int m, .int n => m = n
  | .bool b, .bool c => b = c
  | .string s, .string t => s = t
  | .moment m, .moment n => m = n
  | x, y => match x.number?, y.number? with
    | some a, some b => a = b && a != .notANumber
    | _, _ => false

section Pairs

variable {α : Type} (pairs : List (Yaml × α))

def put (key : Yaml) (value : α) : List (Yaml × α) :=
  if pairs.any fun p => sameKey p.1 key then
    pairs.map fun p => if sameKey p.1 key then (p.1, value) else p
  else pairs ++ [(key, value)]

def without (name : String) : List (Yaml × α) := pairs.filter fun p => !sameKey p.1 (.string name)

def find? (name : String) : Option α := (pairs.find? fun p => sameKey p.1 (.string name)).map Prod.snd

end Pairs

def isTruthy : Yaml → Bool
  | .null => false
  | .bool b => b
  | .int n => n != 0
  | .float x => !x.isZero
  | .string s => !s.isEmpty
  | .moment _ => true
  | .list items => !items.isEmpty
  | .mapping pairs => !pairs.isEmpty

mutual

def shown : Yaml → String
  | .null => "None"
  | .bool b => if b then "True" else "False"
  | .int n => toString n
  | .float x => x.toText
  | .string s => quoted s
  | .moment m => m.shown
  | .list items => "[" ++ ", ".intercalate (shownAll items) ++ "]"
  | .mapping pairs => "\x7b" ++ ", ".intercalate (shownPairs pairs) ++ "\x7d"

def shownAll : List Yaml → List String
  | [] => []
  | v :: vs => shown v :: shownAll vs

def shownPairs : List (Yaml × Yaml) → List String
  | [] => []
  | (k, v) :: ps => (shown k ++ ": " ++ shown v) :: shownPairs ps

end

def text : Yaml → String
  | .string s => s
  | .moment m => m.text
  | v => v.shown

def typeName : Yaml → String
  | .null => "NoneType"
  | .bool _ => "bool"
  | .int _ => "int"
  | .float _ => "float"
  | .string _ => "str"
  | .moment m => m.typeName
  | .list _ => "list"
  | .mapping _ => "dict"

end Yaml

end ConfigKeeper
