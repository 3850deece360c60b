import ConfigKeeper.Log.Runtime
import ConfigKeeper.Text.Blank
import ConfigKeeper.Text.Letters
import ConfigKeeper.Text.Split

/-!
References in a logging configuration. A text may stand for another part of the configuration, which it
names by its place, or for an object of the runtime.
-/

namespace ConfigKeeper

namespace Yaml

mutual

def texts : Yaml → Nat
  | .string _ => 1
  | .list items => textsInAll items
  | .mapping pairs => textsInPairs pairs
  | _ => 0

def textsInAll : List Yaml → Nat
  | [] => 0
  | v :: vs => v.texts + textsInAll vs

def textsInPairs : List (Yaml × Yaml) → Nat
  | [] => 0
  | (_, v) :: ps => v.texts + textsInPairs ps

end

end Yaml

namespace Log

open Yaml (Pairs)

def ownMark : List Char := "cfg://".toList

inductive Reference
  | part (place : List Char)
  | object (name : String)

def lineOf? (s : List Char) : Option (List Char) :=
  let line := s.takeWhile (· != '\n')
  if s.length ≤ line.length + 1 then some line else none

def reference? (s : String) : Option Reference :=
  match Text.afterWord ownMark s.toList, Text.afterWord objectMark s.toList with
  | some place, _ => (lineOf? place).map .part
  | none, some name => (lineOf? name).map fun name => .object (String.ofList name)
  | none, none => none

/- Places. -/

def isWordLetter (c : Char) : Bool :=
  c.isAlphanum || c = '_' || Text.isLowerLetter c || Text.isUpperLetter c

def word? (s : List Char) : Option (String × List Char) :=
  let s := Text.trimStart s
  let word := s.takeWhile isWordLetter
  if word.isEmpty then none else some (String.ofList word, Text.trimStart (s.drop word.length))

inductive Step
  | name (word : String)
  | key (word : String)
  | broken (rest : String)
deriving DecidableEq, Repr

def stepsAux : Nat → List Char → List Step
  | 0, _ => []
  | _, [] => []
  | n + 1, '.' :: r =>
    match word? r with
    | some (word, r) => .name word :: stepsAux n r
    | none => [.broken (String.ofList ('.' :: r))]
  | n + 1, '[' :: r =>
    match word? r with
    | some (word, ']' :: r) => .key word :: stepsAux n (Text.trimStart r)
    | _ => [.broken (String.ofList ('[' :: r))]
  | _ + 1, r => [.broken (String.ofList r)]

def steps (s : List Char) : List Step := stepsAux s.length s

def notSubscriptable (typeName : String) : SetupFault :=
  .badType ("'" ++ typeName ++ "' object is not subscriptable")

def member (pairs : Pairs) (key : Yaml) : Except SetupFault Yaml :=
  match pairs.find? fun p => Yaml.sameKey p.1 key with
  | some p => .ok p.2
  | none => .error (.badKey key.shown)

def element (items : List Yaml) (what : String) (n : Nat) : Except SetupFault Yaml :=
  match items[n]? with
  | some v => .ok v
  | none => .error (.badIndex (what ++ " index out of range"))

def isObject (s : String) : Bool :=
  match reference? s with
  | some (.object _) => true
  | _ => false

def named (v : Yaml) (word : String) : Except SetupFault Yaml :=
  match v with
  | .mapping pairs => member pairs (.string word)
  | .list _ => .error (.badType "list indices must be integers or slices, not str")
  | .string s =>
    if isObject s then .error (notSubscriptable "_io.TextIOWrapper")
    else .error (.badType "string indices must be integers, not 'str'")
  | v => .error (notSubscriptable v.typeName)

def numbered (v : Yaml) (n : Nat) : Except SetupFault Yaml :=
  match v with
  | .mapping pairs => member pairs (.int n)
  | .list items => element items "list" n
  | .string s =>
    if isObject s then .error (notSubscriptable "_io.TextIOWrapper")
    else element (s.toList.map fun c => .string (String.singleton c)) "string" n
  | v => .error (notSubscriptable v.typeName)

def inside (place : List Char) (v : Yaml) : Step → Except SetupFault Yaml
  | .name word => named v word
  | .key word =>
    if word.toList.all Char.isDigit then do
      let n ← (Yaml.numberIn 10 word.toList).mapError misfit
      numbered v n
    else named v word
  | .broken rest =>
    .error (.badValue ("Unable to convert " ++ quoted (String.ofList place) ++ " at " ++ quoted rest))

section Values

variable {ε : Type} (rt : Runtime ε) (config : Pairs)

/-- What a value stands for, if no more references than `depth` follow one another. -/
def resolved : Nat → Yaml → Except (Halt ε) Yaml
  | depth, .string s =>
    match reference? s with
    | none => .ok (.string s)
    | some (.object name) => rt.object name
    | some (.part place) =>
      match depth with
      | 0 => .error (.fault (.endless "maximum recursion depth exceeded"))
      | depth + 1 =>
        match word? place with
        | none => .error (.fault (.badValue ("Unable to convert " ++ quoted (String.ofList place))))
        | some (word, rest) => do
          let top ← (member config (.string word)).mapError Halt.fault
          let top ← resolved depth top
          (steps rest).foldlM (fun v step => do
            resolved depth (← (inside place v step).mapError Halt.fault)) top
  | _, v => .ok v

/-- What a value stands for. More references in a row than there are texts lead back to one of them. -/
def valueIn (v : Yaml) : Except (Halt ε) Yaml := resolved rt config ((Yaml.mapping config).texts + 1) v

def part (pairs : Pairs) (name : String) : Except (Halt ε) (Option Yaml) :=
  match Yaml.find? pairs name with
  | some v => (valueIn rt config v).map some
  | none => .ok none

def pairsIn (v : Yaml) : Except (Halt ε) Pairs :=
  valueIn rt config v >>= fun
  | .mapping pairs => .ok pairs
  | v => .error (.fault (.badType ("'" ++ v.typeName ++ "' object is not a mapping")))

end Values

end Log

end ConfigKeeper
