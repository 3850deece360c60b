import ConfigKeeper.Console.StyledText
import ConfigKeeper.Text.Blank
import ConfigKeeper.Text.Split

/-!
Style tags in square brackets. Only the text is kept here; a closing tag must have an opening one of
the same style.
-/

namespace ConfigKeeper.Console.Markup

def startsTag (c : Char) : Bool := ('a' ≤ c && c ≤ 'z') || c = '#' || c = '/' || c = '@'

def tagBody? (s : List Char) : Option (List Char) :=
  match s with
  | c :: r =>
    if startsTag c then
      let body := r.takeWhile fun x => x != ']' && x != '['
      if (r.drop body.length).head? = some ']' then some (c :: body) else none
    else none
  | [] => none

structure Mark where
  slashes : Nat
  body : List Char

def mark? (s : List Char) : Option Mark :=
  let slashes := (s.takeWhile (· = '\\')).length
  match s.drop slashes with
  | '[' :: r => (tagBody? r).map fun body => ⟨slashes, body⟩
  | _ => none

def Mark.size (m : Mark) : Nat := m.slashes + m.body.length + 2

inductive Token
  | text (s : List Char)
  | tag (body : List Char)
deriving DecidableEq, Repr

/-- Pairs of backslashes stand for one each; an odd one makes the tag plain text. -/
def Mark.tokens (m : Mark) : List Token :=
  let front := if 2 ≤ m.slashes then [Token.text (List.replicate (m.slashes / 2) '\\')] else []
  front ++ [if m.slashes % 2 = 1 then .text ('[' :: m.body ++ [']']) else .tag m.body]

def flush (acc : List Char) : List Token := if acc.isEmpty then [] else [.text acc.reverse]

/-- `skip` characters belong to a tag already read. -/
def tokensAux : Nat → List Char → List Char → List Token
  | _, acc, [] => flush acc
  | skip + 1, acc, _ :: r => tokensAux skip acc r
  | 0, acc, c :: r =>
    match mark? (c :: r) with
    | some m => flush acc ++ m.tokens ++ tokensAux (m.size - 1) [] r
    | none => tokensAux 0 (c :: acc) r

def tokens (s : List Char) : List Token := tokensAux 0 [] s

def attributes : List (List String × String) := [
  (["bold", "b"], "bold"), (["dim", "d"], "dim"), (["italic", "i"], "italic"),
  (["underline", "u"], "underline"), (["blink"], "blink"), (["blink2"], "blink2"),
  (["reverse", "r"], "reverse"), (["conceal", "c"], "conceal"), (["strike", "s"], "strike"),
  (["underline2", "uu"], "underline2"), (["frame"], "frame"), (["encircle"], "encircle"),
  (["overline", "o"], "overline")]

def wordsOf (s : List Char) : List String :=
  ((Text.splitAt ' ' (s.map fun c => if Text.isBlank c then ' ' else c.toLower)).filter
    fun w => !w.isEmpty).map String.ofList

def styleName (s : List Char) : List String :=
  let ws := wordsOf s
  let known := (attributes.filter fun a => ws.any a.1.contains).map Prod.snd
  known ++ ws.filter fun w => !attributes.any fun a => a.1.contains w

def nameOf (body : List Char) : List Char := body.takeWhile (· != '=')

structure Unmatched where
  name : String
deriving DecidableEq, Repr

def unescape : List Char → List Char
  | '\\' :: '[' :: r => '[' :: unescape r
  | c :: r => c :: unescape r
  | [] => []

/-- The text of the tokens; `open_` holds the styles not yet closed, the last first. -/
def textOf : List (List String) → List Token → Except Unmatched (List Char)
  | _, [] => .ok []
  | open_, .text s :: rest => (unescape s ++ ·) <$> textOf open_ rest
  | open_, .tag body :: rest =>
    match nameOf body with
    | '/' :: name =>
      if (Text.trim name).isEmpty then
        match open_ with
        | _ :: below => textOf below rest
        | [] => .error ⟨""⟩
      else
        let style := styleName name
        if open_.contains style then textOf (open_.erase style) rest
        else .error ⟨String.ofList name⟩
    | name => textOf (styleName name :: open_) rest

def render (s : List Char) : Except Unmatched (List Char) :=
  (textOf [] (tokens s)).map sanitized

def escapeAux : Nat → List Char → List Char
  | _, [] => []
  | skip + 1, c :: r => c :: escapeAux skip r
  | 0, c :: r =>
    match mark? (c :: r) with
    | some m => List.replicate (m.slashes + 1) '\\' ++ c :: escapeAux (m.size - 1) r
    | none => c :: escapeAux 0 r

def escape (s : List Char) : List Char :=
  let t := escapeAux 0 s
  if ['\\'].isSuffixOf t && !(['\\', '\\'].isSuffixOf t) then t ++ ['\\'] else t

end ConfigKeeper.Console.Markup
