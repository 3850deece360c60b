import ConfigKeeper.Text.Split

/-!
A reader's place in a text: how many characters it has passed and what is still before it. Dropping
characters keeps the two in step.
-/

namespace ConfigKeeper.Text

structure Cursor where
  position : Nat
  rest : List Char
deriving DecidableEq, Repr

namespace Cursor

def start (s : List Char) : Cursor := ⟨0, s⟩

def drop (c : Cursor) (n : Nat) : Cursor := ⟨c.position + n, c.rest.drop n⟩

def dropWhile (c : Cursor) (p : Char → Bool) : Cursor := c.drop (c.rest.takeWhile p).length

def next? (c : Cursor) : Option Char := c.rest.head?

def startsWith (c : Cursor) (word : List Char) : Bool := Text.startsWith word c.rest

end Cursor

def lineAt (s : List Char) (position : Nat) : Nat :=
  ((s.take position).filter (· = '\n')).length + 1

def columnAt (s : List Char) (position : Nat) : Nat :=
  ((s.take position).reverse.takeWhile (· != '\n')).length + 1

end ConfigKeeper.Text
