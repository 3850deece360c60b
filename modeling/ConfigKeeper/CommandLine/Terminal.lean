import ConfigKeeper.Sync.Session
import ConfigKeeper.Text.Lines
import ConfigKeeper.Text.Split

/-!
Questions at a terminal. Each line that is typed is an answer; one that cannot be understood is
refused and the question comes again. Without a further line the command is given up.
-/

namespace ConfigKeeper.CommandLine

open Sync

/-- The lines still to be typed, and a question that stands without an answer. -/
structure Terminal where
  unread : List (List Char)
  unanswered : List Char
deriving DecidableEq, Repr

namespace Terminal

def typedLines (s : List Char) : List (List Char) :=
  let pieces := Text.splitAt '\n' (Text.unifyNewlines s)
  if pieces.getLast? = some [] then pieces.dropLast else pieces

def ofText (s : String) : Terminal := ⟨typedLines s.toList, []⟩

/-- Lines printed at a terminal: the first continues a question without an answer. -/
def continued (t : Terminal) : List (List Char) → List (List Char)
  | [] => if t.unanswered.isEmpty then [] else [t.unanswered]
  | line :: lines => (t.unanswered ++ line) :: lines

def refusal (reason : String) : List Char := "Error: ".toList ++ reason.toList

def ask {α : Type} (understand : List Char → Except String α) (question : List Char) :
    List (List Char) → Prompted α × Terminal
  | [] => (⟨.error .aborted, []⟩, ⟨[], question⟩)
  | line :: rest =>
    match understand line with
    | .ok a => (⟨.ok a, [question ++ line]⟩, ⟨rest, []⟩)
    | .error reason =>
      let (p, t) := ask understand question rest
      (⟨p.answer, (question ++ line) :: refusal reason :: p.printed⟩, t)

def yesWords : List String := ["y", "yes"]

def noWords : List String := ["n", "no", ""]

def confirmation (line : List Char) : Except String Bool :=
  let word := trimmed (String.ofList (line.map Char.toLower))
  if yesWords.contains word then .ok true
  else if noWords.contains word then .ok false
  else .error "invalid input"

def choice (count : Nat) (line : List Char) : Except String (Option Int) :=
  if line.isEmpty then .ok none
  else match Checked.integer [] (.string (String.ofList line)) with
    | .ok n => .ok (if 1 ≤ n && n ≤ count then some (n - 1) else none)
    | .error vs => .error ("; ".intercalate (vs.map fun v => v.mismatch.message))

def confirmQuestion (message : String) : List Char := (message ++ " [y/N]: ").toList

def selectQuestion (message : String) : List Char := (message ++ " (0 to cancel) [0]: ").toList

def optionMarkup (number : Nat) (option : String) : List Char :=
  ("  " ++ toString number ++ ") ").toList ++ Console.Markup.escape option.toList

def optionLines (width : Nat) : Nat → List String → Except Failure (List (List Char))
  | _, [] => .ok []
  | number, option :: options => do
    let lines ← (Report.markupLines width (optionMarkup number option)).mapError Report.ofMarkup
    let rest ← optionLines width (number + 1) options
    pure (lines ++ rest)

def confirm (t : Terminal) (message : String) : Prompted Bool × Terminal :=
  ask confirmation (confirmQuestion message) t.unread

def select (width : Nat) (t : Terminal) (message : String) (options : List String) :
    Prompted (Option Int) × Terminal :=
  match optionLines width 1 options with
  | .error f => (⟨.error f, []⟩, t)
  | .ok lines =>
    let (p, t) := ask (choice options.length) (selectQuestion message) t.unread
    (⟨p.answer, lines ++ p.printed⟩, t)

def prompter (width : Nat) : Prompter Terminal := ⟨confirm, select width⟩

end Terminal

end ConfigKeeper.CommandLine
