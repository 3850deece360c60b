/-!
Texts with styled stretches. A few control characters are dropped from everything put into such a
text.
-/

namespace ConfigKeeper.Console

/-- Bell, backspace, vertical tab, form feed and carriage return never reach the terminal. -/
def isDropped (c : Char) : Bool :=
  c = '\x07' || c = '\x08' || c = '\x0b' || c = '\x0c' || c = '\r'

def sanitized (s : List Char) : List Char := s.filter fun c => !isDropped c

theorem sanitized_append (s t : List Char) : sanitized (s ++ t) = sanitized s ++ sanitized t := List.filter_append ..

theorem sanitized_eq_self {s : List Char} (h : ∀ c ∈ s, isDropped c = false) : sanitized s = s :=
  List.filter_eq_self.2 fun c hc => by rw [h c hc]; rfl

structure Span where
  start : Nat
  stop : Nat
  style : String
deriving DecidableEq, Repr

structure StyledText where
  plain : List Char
  spans : List Span
deriving DecidableEq, Repr

namespace StyledText

def empty : StyledText := ⟨[], []⟩

def ofText (s : List Char) : StyledText := ⟨sanitized s, []⟩

def append (t : StyledText) (s : List Char) (style : String) : StyledText :=
  let piece := sanitized s
  let stop := t.plain.length + piece.length
  ⟨t.plain ++ piece,
    if style.isEmpty || piece.isEmpty then t.spans else t.spans ++ [⟨t.plain.length, stop, style⟩]⟩

def cropEnd (t : StyledText) (n : Nat) : StyledText :=
  let stop := t.plain.length - n
  ⟨t.plain.take stop,
    (t.spans.filter fun s => s.start < stop).map fun s => { s with stop := min stop s.stop }⟩

def stylize (t : StyledText) (style : String) (start stop : Nat) : StyledText :=
  if t.plain.length ≤ start || stop ≤ start then t
  else { t with spans := t.spans ++ [⟨start, min t.plain.length stop, style⟩] }

theorem plain_append (t : StyledText) (s : List Char) (style : String) :
    (t.append s style).plain = t.plain ++ sanitized s := rfl

theorem plain_cropEnd (t : StyledText) (n : Nat) :
    (t.cropEnd n).plain = t.plain.take (t.plain.length - n) := rfl

end StyledText

end ConfigKeeper.Console
