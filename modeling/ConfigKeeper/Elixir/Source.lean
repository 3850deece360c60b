import ConfigKeeper.Elixir.Grammar

/-!
Parsed sources: a text with a tree that spells it.
-/

namespace ConfigKeeper.Elixir

def fuelFor (ts : List Spaced) : Nat := 16 * (ts.length + 4)

def readTree (s : List Char) : Tree :=
  let (ts, trailing) := spaced (tokens s)
  let (items, rest) := statements (fuelFor ts) ⟨.top, [], false⟩ true false ts
  let (lead, tree) := Draft.settle (.node .source (grouped items ++ rest.map misplaced))
  .node .source (lead ++ tree.children ++ trailing.map Draft.triviaLeaf)

/-- A tree that does not spell the source gives way to a single error. -/
def treeOf (s : List Char) : Tree :=
  if (readTree s).text = s then readTree s else .node .source [.leaf .error s]

theorem treeOf_text (s : List Char) : (treeOf s).text = s := by
  unfold treeOf
  split
  · assumption
  · simp [Tree.text, Tree.textOfAll]

structure Source where
  text : String
  tree : Tree
  spells : tree.text = text.toList

def Source.parse (text : String) : Source := ⟨text, treeOf text.toList, treeOf_text text.toList⟩

def Source.hasError (s : Source) : Bool := s.tree.hasError

end ConfigKeeper.Elixir
