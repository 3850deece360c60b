namespace ConfigKeeper.Text

def splitAt (sep : Char) : List Char → List (List Char)
  | [] => [[]]
  | c :: r =>
    if c = sep then [] :: splitAt sep r
    else match splitAt sep r with
      | [] => [[c]]
      | p :: ps => (c :: p) :: ps

theorem splitAt_ne_nil (sep : Char) (s : List Char) : splitAt sep s ≠ [] := by
  cases s with
  | nil => simp [splitAt]
  | cons c r =>
    simp only [splitAt]
    split
    · simp
    · split <;> simp

def joinWith (sep : List Char) : List (List Char) → List Char
  | [] => []
  | [p] => p
  | p :: q :: ps => p ++ sep ++ joinWith sep (q :: ps)

theorem joinWith_splitAt (sep : Char) (s : List Char) : joinWith [sep] (splitAt sep s) = s := by
  induction s with
  | nil => rfl
  | cons c r ih =>
    simp only [splitAt]
    have hne := splitAt_ne_nil sep r
    revert ih hne
    generalize splitAt sep r = ps
    intro ih hne
    cases ps with
    | nil => exact absurd rfl hne
    | cons p qs =>
      split
      · next h => simp [joinWith, ih, h]
      · cases qs with
        | nil => simpa [joinWith] using ih
        | cons q qs => simpa [joinWith] using ih

def afterWord : List Char → List Char → Option (List Char)
  | [], s => some s
  | _ :: _, [] => none
  | w :: ws, c :: r => if w = c then afterWord ws r else none

theorem afterWord_eq_some_iff {w s r : List Char} : afterWord w s = some r ↔ s = w ++ r := by
  induction w generalizing s with
  | nil => simp [afterWord, eq_comm]
  | cons a w ih =>
    cases s with
    | nil => simp [afterWord]
    | cons c s =>
      simp only [afterWord]
      split
      · next h => simp [ih, h]
      · next h => simp [Ne.symm h]

def splitWordAux (w : List Char) : Nat → List Char → List Char → List (List Char)
  | _, acc, [] => [acc.reverse]
  | skip + 1, acc, _ :: r => splitWordAux w skip acc r
  | 0, acc, c :: r =>
    match afterWord w (c :: r) with
    | some _ => acc.reverse :: splitWordAux w (w.length - 1) [] r
    | none => splitWordAux w 0 (c :: acc) r

def splitWord (w s : List Char) : List (List Char) := splitWordAux w 0 [] s

def startsWith (w s : List Char) : Bool := (afterWord w s).isSome

def contains (w : List Char) : List Char → Bool
  | [] => w.isEmpty
  | c :: r => startsWith w (c :: r) || contains w r

end ConfigKeeper.Text

namespace ConfigKeeper

def splitOnChar (sep : Char) (s : String) : List String :=
  (Text.splitAt sep s.toList).map String.ofList

def splitOnWord (w s : String) : List String :=
  (Text.splitWord w.toList s.toList).map String.ofList

end ConfigKeeper
