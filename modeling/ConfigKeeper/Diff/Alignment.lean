/-!
Aligning two lists. The longest common run is kept, the earliest in the old list and then in the new
one if several are longest, and what stands before and after it is aligned in the same way.
-/

namespace ConfigKeeper.Diff

variable {α : Type}

structure Block where
  old : Nat
  new : Nat
  size : Nat
deriving DecidableEq, Repr

/-- For each item of the new list the length of the common run that ends with it and `x`; `above` is
the same for the item before `x`. -/
def runLengths [DecidableEq α] (x : α) (new : List α) (above : List Nat) : List Nat :=
  List.zipWith (fun y n => if x = y then n + 1 else 0) new (0 :: above)

def longerIn (i : Nat) : Nat → List Nat → Block → Block
  | _, [], best => best
  | j, n :: ns, best =>
    longerIn i (j + 1) ns (if best.size < n then ⟨i + 1 - n, j + 1 - n, n⟩ else best)

def longestFrom [DecidableEq α] (new : List α) : Nat → List α → List Nat → Block → Block
  | _, [], _, best => best
  | i, x :: xs, above, best =>
    let row := runLengths x new above
    longestFrom new (i + 1) xs row (longerIn i 0 row best)

def longest [DecidableEq α] (old new : List α) : Block :=
  longestFrom new 0 old (new.map fun _ => 0) ⟨0, 0, 0⟩

inductive Segment (α : Type)
  | kept (items : List α)
  | changed (old new : List α)
deriving Repr

namespace Segment

def old : Segment α → List α
  | .kept xs => xs
  | .changed xs _ => xs

def new : Segment α → List α
  | .kept xs => xs
  | .changed _ ys => ys

def isChanged : Segment α → Bool
  | .kept _ => false
  | .changed _ _ => true

end Segment

def gap (old new : List α) : List (Segment α) :=
  if old.isEmpty && new.isEmpty then [] else [.changed old new]

def alignRuns [DecidableEq α] (old new : List α) : List (Segment α) :=
  let b := longest old new
  if _h : 0 < b.size ∧ b.old + b.size ≤ old.length then
    alignRuns (old.take b.old) (new.take b.new) ++ .kept ((old.drop b.old).take b.size) ::
      alignRuns (old.drop (b.old + b.size)) (new.drop (b.new + b.size))
  else gap old new
termination_by old.length
decreasing_by
  · have hb : 0 < (longest old new).size ∧
        (longest old new).old + (longest old new).size ≤ old.length := _h
    simp only [List.length_take]; omega
  · have hb : 0 < (longest old new).size ∧
        (longest old new).old + (longest old new).size ≤ old.length := _h
    simp only [List.length_drop]; omega

def joinKept : List (Segment α) → List (Segment α)
  | [] => []
  | .changed xs ys :: r => .changed xs ys :: joinKept r
  | .kept xs :: r =>
    match joinKept r with
    | .kept ys :: r => .kept (xs ++ ys) :: r
    | r => .kept xs :: r

def align [DecidableEq α] (old new : List α) : List (Segment α) := joinKept (alignRuns old new)

def oldOf (segments : List (Segment α)) : List α := segments.flatMap Segment.old

def newOf (segments : List (Segment α)) : List α := segments.flatMap Segment.new

end ConfigKeeper.Diff
