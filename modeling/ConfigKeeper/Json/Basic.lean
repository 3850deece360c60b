import ConfigKeeper.Decimal.Double

/-!
JSON values. An object keeps its members in order; a member written twice keeps its first place and
its last value.
-/

namespace ConfigKeeper

inductive Json
  | null
  | bool (b : Bool)
  | int (n : Int)
  | float (x : Double)
  | string (s : String)
  | array (items : List Json)
  | object (members : List (String × Json))
deriving Repr

namespace Json

def put {α : Type} (members : List (String × α)) (name : String) (value : α) : List (String × α) :=
  if members.any (·.1 == name) then
    members.map fun x => if x.1 == name then (name, value) else x
  else members ++ [(name, value)]

def ofMembers (members : List (String × Json)) : Json :=
  .object (members.foldl (fun done x => put done x.1 x.2) [])

def field? (name : String) : Json → Option Json
  | .object members => members.lookup name
  | _ => none

def string? : Json → Option String
  | .string s => some s
  | _ => none

def members? : Json → Option (List (String × Json))
  | .object members => some members
  | _ => none

def isTruthy : Json → Bool
  | .null => false
  | .bool b => b
  | .int n => n != 0
  | .float x => !x.isZero
  | .string s => !s.isEmpty
  | .array items => !items.isEmpty
  | .object members => !members.isEmpty

theorem lookup_put {α : Type} (members : List (String × α)) (name : String) (value : α) :
    (put members name value).lookup name = some value := by
  unfold put
  split
  · next h =>
    induction members with
    | nil => simp at h
    | cons x xs ih =>
      obtain ⟨key, old⟩ := x
      by_cases hx : key = name
      · simp [hx]
      · have hn : (name == key) = false := by simpa using Ne.symm hx
        simp only [List.any_cons, beq_iff_eq, hx, Bool.or_eq_true, false_or] at h
        simpa [hx, List.lookup_cons, hn] using ih h
  · next h =>
    induction members with
    | nil => simp
    | cons x xs ih =>
      obtain ⟨key, old⟩ := x
      have hx : key ≠ name := by intro e; simp [e] at h
      have hn : (name == key) = false := by simpa using Ne.symm hx
      simp only [List.any_cons, Bool.or_eq_true, not_or] at h
      simpa [List.lookup_cons, hn] using ih h.2

end Json

end ConfigKeeper
