/-!
Lines and their terminators. A split keeps the terminators, so the lines of a text joined are the
text; reading a source folds the three usual line ends into one.
-/

namespace ConfigKeeper.Text

def isTerminator (c : Char) : Bool :=
  let n := c.toNat
  (0x0a ≤ n && n ≤ 0x0d) || (0x1c ≤ n && n ≤ 0x1e) || n == 0x85 || n == 0x2028 || n == 0x2029

/-- Lines with their terminators; a carriage return and the line feed after it are one. -/
def linesAux : List Char → List Char → List (List Char)
  | [], acc => if acc.isEmpty then [] else [acc.reverse]
  | '\r' :: '\n' :: r, acc => ('\n' :: '\r' :: acc).reverse :: linesAux r []
  | c :: r, acc =>
    if isTerminator c then (c :: acc).reverse :: linesAux r []
    else linesAux r (c :: acc)

def lines (s : List Char) : List (List Char) := linesAux s []

def unifyNewlines : List Char → List Char
  | [] => []
  | '\r' :: '\n' :: r => '\n' :: unifyNewlines r
  | c :: r => (if c = '\r' then '\n' else c) :: unifyNewlines r

theorem linesAux_flatten (s acc : List Char) : (linesAux s acc).flatten = acc.reverse ++ s := by
  fun_induction linesAux s acc <;> simp_all

theorem lines_flatten (s : List Char) : (lines s).flatten = s := by
  simp [lines, linesAux_flatten]

def dropTerminator (line : List Char) : List Char :=
  match line.reverse with
  | '\n' :: '\r' :: r => r.reverse
  | c :: r => if isTerminator c then r.reverse else line
  | [] => []

end ConfigKeeper.Text
