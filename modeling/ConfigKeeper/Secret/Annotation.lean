import ConfigKeeper.Secret.Locator
import ConfigKeeper.Text.Blank

/-!
Annotation comments: `# <namespace>/config-secrets-location: <locator>`.
-/

namespace ConfigKeeper

structure Annotation where
  key : String
  locator : Locator
  destination : String
  raw : String
deriving DecidableEq, Repr

namespace Annotation

def keySuffix : String := "config-secrets-location"

def keyOf (ns : String) : String := ns ++ "/" ++ keySuffix

/-- What a comment must begin with to be an annotation: `#`, white space, the key and a colon. The
result is the text so matched. -/
def commentHead? (ns : String) (comment : String) : Option String :=
  match comment.toList with
  | '#' :: r =>
    let word := (keyOf ns ++ ":").toList
    let blanks := r.takeWhile Text.isBlank
    match longestFit word blanks.length r with
    | some n => some (String.ofList (('#' :: r).take (1 + n + word.length)))
    | none => none
  | _ => none
where
  longestFit (word : List Char) : Nat → List Char → Option Nat
    | 0, r => if Text.startsWith word r then some 0 else none
    | n + 1, r =>
      if Text.startsWith word (r.drop (n + 1)) then some (n + 1) else longestFit word n r

def removeFirst (x : Char) : List Char → List Char
  | [] => []
  | c :: r => if c = x then r else c :: removeFirst x r

def decode? (comment destination : String) : Option Annotation :=
  match (Text.splitWord [':', ' '] (removeFirst '#' comment.toList)).map Text.trim with
  | [key, value] =>
    (Locator.parse? (String.ofList value)).map fun l =>
      ⟨String.ofList key, l, trimmed destination, String.ofList value⟩
  | _ => none

end Annotation

end ConfigKeeper
