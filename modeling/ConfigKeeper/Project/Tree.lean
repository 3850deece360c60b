import ConfigKeeper.Path
import ConfigKeeper.Text.Quoted

/-!
A project as a tree of files, seen from a working directory. Each place is the list of names that
leads to it from the top. Operations follow the names of a path one by one, so `..` needs the
directory it leaves.
-/

namespace ConfigKeeper

abbrev Place := List String

inductive Entry
  | file (content : List UInt8)
  | directory
deriving DecidableEq, Repr

structure Project where
  workingDirectory : Place
  entries : List (Place × Entry)
deriving DecidableEq, Repr

inductive FileFault
  | missing
  | notDirectory
  | isDirectory
  | alreadyThere
  | nameTooLong
deriving DecidableEq, Repr

inductive FileError
  | refused (fault : FileFault) (path : Path)
  | nulInPath
deriving DecidableEq, Repr

def FileFault.number : FileFault → Nat
  | .missing => 2
  | .alreadyThere => 17
  | .notDirectory => 20
  | .isDirectory => 21
  | .nameTooLong => 36

def FileFault.text : FileFault → String
  | .missing => "No such file or directory"
  | .alreadyThere => "File exists"
  | .notDirectory => "Not a directory"
  | .isDirectory => "Is a directory"
  | .nameTooLong => "File name too long"

def FileError.message : FileError → String
  | .refused f p =>
    "[Errno " ++ toString f.number ++ "] " ++ f.text ++ ": " ++ quoted p.toString
  | .nulInPath => "embedded null byte"

namespace Project

variable (t : Project)

def entryAt (place : Place) : Option Entry :=
  if place.isEmpty then some .directory else t.entries.lookup place

def insert (place : Place) (e : Entry) : Project :=
  if t.entries.any (·.1 == place) then
    { t with entries := t.entries.map fun x => if x.1 == place then (place, e) else x }
  else { t with entries := t.entries ++ [(place, e)] }

def erase (place : Place) : Project :=
  { t with entries := t.entries.filter fun x => !place.isPrefixOf x.1 }

def step (here : Place) (name : String) : Place :=
  if name = ".." then here.dropLast else here ++ [name]

def nameLimit : Nat := 255

def pathLimit : Nat := 4096

def follow : Place → List String → Except FileFault Place
  | here, [] => .ok here
  | here, name :: names =>
    match t.entryAt here with
    | none => .error .missing
    | some (.file _) => .error .notDirectory
    | some .directory =>
      if nameLimit < name.utf8ByteSize then .error .nameTooLong
      else follow (step here name) names

def start (p : Path) : Place := if p.isAbsolute then [] else t.workingDirectory

def place (p : Path) : Except FileError Place :=
  if p.names.any fun n => n.toList.contains '\x00' then .error .nulInPath
  else if pathLimit ≤ p.toString.utf8ByteSize then .error (.refused .nameTooLong p)
  else match t.follow (t.start p) p.names with
    | .ok q => .ok q
    | .error f => .error (.refused f p)

def entry? (p : Path) : Except FileError (Option Entry) :=
  match t.place p with
  | .ok q => .ok (t.entryAt q)
  | .error (.refused .nameTooLong q) => .error (.refused .nameTooLong q)
  | .error _ => .ok none

def isFile (p : Path) : Except FileError Bool :=
  (t.entry? p).map fun e => match e with
    | some (.file _) => true
    | _ => false

def isDirectory (p : Path) : Except FileError Bool :=
  (t.entry? p).map fun e => match e with
    | some .directory => true
    | _ => false

def isPresent (p : Path) : Except FileError Bool := (t.entry? p).map Option.isSome

def readFile (p : Path) : Except FileError (List UInt8) :=
  match t.place p with
  | .error e => .error e
  | .ok q => match t.entryAt q with
    | none => .error (.refused .missing p)
    | some .directory => .error (.refused .isDirectory p)
    | some (.file content) => .ok content

def writeFile (p : Path) (content : List UInt8) : Except FileError Project :=
  match t.place p with
  | .error e => .error e
  | .ok q => match t.entryAt q with
    | some .directory => .error (.refused .isDirectory p)
    | some (.file _) => .ok (t.insert q (.file content))
    | none => match t.entryAt q.dropLast with
      | some .directory => .ok (t.insert q (.file content))
      | some (.file _) => .error (.refused .notDirectory p)
      | none => .error (.refused .missing p)

def makeDirectory (p : Path) : Except FileError Project :=
  match t.place p with
  | .error e => .error e
  | .ok q => match t.entryAt q with
    | some _ => .error (.refused .alreadyThere p)
    | none => match t.entryAt q.dropLast with
      | some .directory => .ok (t.insert q .directory)
      | some (.file _) => .error (.refused .notDirectory p)
      | none => .error (.refused .missing p)

def allowPresent (p : Path) (e : FileError) : Except FileError Project :=
  match e with
  | .nulInPath => .error e
  | .refused _ _ =>
    match t.isDirectory p with
    | .ok true => .ok t
    | .ok false => .error e
    | .error e => .error e

/-- Creates a directory and, where one is missing, those above it. `fuel` bounds how many. The tree
that comes with an error holds the directories made before it. -/
def makeDirectories : Nat → Project → Path → Project × Option FileError
  | 0, t, p => (t, some (.refused .missing p))
  | fuel + 1, t, p =>
    match t.makeDirectory p with
    | .ok t => (t, none)
    | .error (.refused .missing q) =>
      if p.parent = p then (t, some (.refused .missing q))
      else match makeDirectories fuel t p.parent with
        | (t, some e) => (t, some e)
        | (t, none) => match t.makeDirectory p with
          | .ok t => (t, none)
          | .error e => match t.allowPresent p e with
            | .ok t => (t, none)
            | .error e => (t, some e)
    | .error e => match t.allowPresent p e with
      | .ok t => (t, none)
      | .error e => (t, some e)

def ensureDirectory (p : Path) : Project × Option FileError :=
  makeDirectories (p.names.length + 1) t p

def namesBelow (root : Place) : List (List String) :=
  t.entries.filterMap fun x =>
    if root.isPrefixOf x.1 && root.length < x.1.length then some (x.1.drop root.length) else none

def filesBelow (root : Place) : List (List String) :=
  t.entries.filterMap fun
    | (place, .file _) =>
      if root.isPrefixOf place && root.length < place.length then some (place.drop root.length)
      else none
    | (_, .directory) => none

end Project

end ConfigKeeper
