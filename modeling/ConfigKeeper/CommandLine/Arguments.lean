import ConfigKeeper.Project.Tree
import ConfigKeeper.Validation

/-!
Command lines: a command, its flags and at most one path. Flags and the path may come in any order;
a word that is two dashes ends the flags.
-/

namespace ConfigKeeper.CommandLine

inductive Command
  | pull
  | push
  | diff
  | lint
deriving DecidableEq, Repr

inductive Flag
  | verbose
  | level
  | jobs
deriving DecidableEq, Repr

namespace Flag

def name : Flag → String
  | .verbose => "--verbose"
  | .level => "--log-level"
  | .jobs => "--jobs"

def letter? : Flag → Option Char
  | .verbose => some 'v'
  | .level => none
  | .jobs => some 'j'

def takesValue : Flag → Bool
  | .verbose => false
  | .level | .jobs => true

end Flag

namespace Command

def all : List Command := [.pull, .push, .diff, .lint]

def name : Command → String
  | .pull => "pull"
  | .push => "push"
  | .diff => "diff"
  | .lint => "lint"

def named? (s : String) : Option Command := all.find? fun c => c.name = s

def flags : Command → List Flag
  | .lint => [.jobs, .verbose, .level]
  | .pull | .push | .diff => [.verbose, .level]

def flagNamed? (c : Command) (name : List Char) : Option Flag :=
  c.flags.find? fun f => f.name.toList = name

def flagLettered? (c : Command) (x : Char) : Option Flag :=
  c.flags.find? fun f => f.letter? = some x

end Command

inductive UsageFault
  | noCommand
  | unknownCommand (name : String)
  | unknownFlag (name : String)
  | missingValue (f : Flag)
  | unwantedValue (f : Flag)
  | extraArgument (argument : String)
  | nothingThere (path : String)
  | badCount (text : String)
deriving DecidableEq, Repr

namespace UsageFault

def exitCode : Int := 2

def message : UsageFault → String
  | .noCommand => "Missing command."
  | .unknownCommand name => "No such command '" ++ name ++ "'."
  | .unknownFlag name => "No such option: " ++ name
  | .missingValue f => "Option '" ++ f.name ++ "' requires an argument."
  | .unwantedValue f => "Option '" ++ f.name ++ "' does not take a value."
  | .extraArgument argument => "Got unexpected extra argument (" ++ argument ++ ")"
  | .nothingThere path => "Invalid value for '[PATH]': Path '" ++ path ++ "' does not exist."
  | .badCount text => "Invalid value for '--jobs': '" ++ text ++ "' is not a positive integer."

end UsageFault

structure Given where
  verbose : Bool
  level : Option String
  jobs : Option String
  arguments : List String
deriving DecidableEq, Repr

namespace Given

def empty : Given := ⟨false, none, none, []⟩

def set (g : Given) (value : String) : Flag → Given
  | .verbose => { g with verbose := true }
  | .level => { g with level := some value }
  | .jobs => { g with jobs := some value }

def addArguments (g : Given) (words : List String) : Given :=
  { g with arguments := g.arguments ++ words }

end Given

abbrev WordResult := Except UsageFault (Given × Option Flag)

def readLetters (c : Command) (g : Given) : List Char → WordResult
  | [] => .ok (g, none)
  | x :: rest =>
    match c.flagLettered? x with
    | none => .error (.unknownFlag (String.ofList ['-', x]))
    | some f =>
      if f.takesValue then
        if rest.isEmpty then .ok (g, some f) else .ok (g.set (String.ofList rest) f, none)
      else readLetters c (g.set "" f) rest

def readNamed (c : Command) (g : Given) (word : List Char) : WordResult :=
  let name := word.takeWhile (· != '=')
  match c.flagNamed? name, word.drop name.length with
  | none, _ => .error (.unknownFlag (String.ofList name))
  | some f, [] => if f.takesValue then .ok (g, some f) else .ok (g.set "" f, none)
  | some f, _ :: value =>
    if f.takesValue then .ok (g.set (String.ofList value) f, none) else .error (.unwantedValue f)

def readWord (c : Command) (g : Given) (word : String) : WordResult :=
  match word.toList with
  | '-' :: '-' :: r => readNamed c g ('-' :: '-' :: r)
  | '-' :: x :: r => readLetters c g (x :: r)
  | _ => .ok (g.addArguments [word], none)

def endOfFlags : String := "--"

def readWords (c : Command) (g : Given) : List String → Except UsageFault Given
  | [] => .ok g
  | word :: rest =>
    if word = endOfFlags then .ok (g.addArguments rest)
    else match readWord c g word, rest with
      | .error e, _ => .error e
      | .ok (g, none), rest => readWords c g rest
      | .ok (_, some f), [] => .error (.missingValue f)
      | .ok (g, some f), value :: rest => readWords c (g.set value f) rest

def isFlagWord (word : String) : Bool :=
  match word.toList with
  | '-' :: _ :: _ => true
  | _ => false

def readCommandName : List String → Except UsageFault (Command × List String)
  | [] => .error .noCommand
  | word :: rest => match Command.named? word with
    | some c => .ok (c, rest)
    | none => .error (.unknownCommand word)

def readCommand : List String → Except UsageFault (Command × List String)
  | [] => .error .noCommand
  | word :: rest =>
    if word = endOfFlags then readCommandName rest
    else if isFlagWord word then .error (.unknownFlag word)
    else readCommandName (word :: rest)

/-- Whether a path, as it is written, leads to something. One that ends in a slash leads to
directories only. -/
def leadsSomewhere (t : Project) (path : String) : Bool :=
  let last := (splitOnChar '/' path).getLastD ""
  let found := (t.entry? (Path.ofString path)).toOption.join
  if path.isEmpty then false
  else if last = "" || last = "." then found = some .directory
  else found.isSome

structure Invocation where
  command : Command
  path : Path
  level : String
  jobs : Nat
deriving DecidableEq, Repr

def readPath (t : Project) : List String → Except UsageFault Path
  | [] => .ok (Path.ofString ".")
  | [path] =>
    if leadsSomewhere t path then .ok (Path.ofString path)
    else .error (.nothingThere path)
  | _ :: extra :: _ => .error (.extraArgument extra)

def readCount : Option String → Except UsageFault Nat
  | none => .ok 1
  | some text => match Checked.integer [] (.string text) with
    | .ok n => if 1 ≤ n then .ok n.toNat else .error (.badCount text)
    | .error _ => .error (.badCount text)

def defaultLevel : String := "WARNING"

def Given.levelText (g : Given) : String := if g.verbose then "DEBUG" else g.level.getD defaultLevel

def Invocation.ofArguments (t : Project) (words : List String) : Except UsageFault Invocation := do
  let (command, rest) ← readCommand words
  let g ← readWords command .empty rest
  let path ← readPath t g.arguments
  let jobs ← readCount g.jobs
  pure ⟨command, path, g.levelText, jobs⟩

end ConfigKeeper.CommandLine
