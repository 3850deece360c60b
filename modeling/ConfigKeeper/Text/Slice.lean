/-!
Slices of a text. A position below zero counts from the end, and one beyond the text stands for its
end.
-/

namespace ConfigKeeper.Text

variable {α : Type}

def slicePosition (length : Nat) (i : Int) : Nat :=
  if i < 0 then (length + i).toNat else min i.toNat length

def slice (s : List α) (start stop : Int) : List α :=
  (s.take (slicePosition s.length stop)).drop (slicePosition s.length start)

end ConfigKeeper.Text
