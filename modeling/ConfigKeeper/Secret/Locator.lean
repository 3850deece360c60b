import ConfigKeeper.Text.Split

/-!
Secret locators: `source:engine/path#name`.
-/

namespace ConfigKeeper

structure Locator where
  source : String
  engine : String
  path : String
  name : String
deriving DecidableEq, Repr

namespace Locator

def cutSlash (s : List Char) : List Char × List Char :=
  (s.takeWhile (· != '/'), (s.dropWhile (· != '/')).drop 1)

def parse? (text : String) : Option Locator :=
  match Text.splitAt '#' text.toList with
  | [place, name] =>
    match Text.splitAt ':' place with
    | [source, rest] =>
      let (engine, path) := cutSlash rest
      if source.isEmpty || engine.isEmpty || path.isEmpty || name.isEmpty then none
      else some ⟨String.ofList source, String.ofList engine, String.ofList path, String.ofList name⟩
    | _ => none
  | _ => none

def toString (l : Locator) : String := l.source ++ ":" ++ l.engine ++ "/" ++ l.path ++ "#" ++ l.name

end Locator

end ConfigKeeper
