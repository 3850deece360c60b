import ConfigKeeper.Project.Source
import ConfigKeeper.Wildcard.Selection

/-!
Finding the files of a project that a list of patterns selects. Excluded files and those that the
ignore file at the root ignores are left out; the rest is ordered by path.
-/

namespace ConfigKeeper.Discovery

def ignoreFileName : String := ".gitignore"

inductive Fault
  | file (e : FileError)
  | pattern (f : Wildcard.PatternFault)
deriving DecidableEq, Repr

structure Selection where
  wanted : List String
  excluded : List String
  useIgnoreFile : Bool
deriving DecidableEq, Repr

def linesOf (s : String) : List String :=
  (Text.lines s.toList).map fun l => String.ofList (Text.dropTerminator l)

def ignorePatterns (t : Project) (root : Path) : Logged (Except Fault (Option Wildcard.Patterns)) :=
  let file := root.join (Path.ofString ignoreFileName)
  match t.isFile file with
  | .error e => pure (.error (.file e))
  | .ok false => pure (.ok none)
  | .ok true =>
    match t.readText file with
    | .error e => do
      Logged.warn "discovery" ("Ignoring unreadable " ++ file.toString ++ ": " ++ e.message)
      pure (.ok none)
    | .ok text =>
      match Wildcard.ofLines (linesOf text) with
      | .error f => pure (.error (.pattern f))
      | .ok ps => pure (.ok (some ps))

def keeps (wanted excluded : Wildcard.Patterns) (ignored : Option Wildcard.Patterns)
    (path : String) : Bool :=
  !Wildcard.selects excluded path &&
    !(match ignored with | some ps => Wildcard.ignores ps path | none => false) &&
    Wildcard.selects wanted path

def selectedFiles (t : Project) (root : Path) (wanted excluded : Wildcard.Patterns)
    (ignored : Option Wildcard.Patterns) : List Path :=
  match t.place root with
  | .error _ => []
  | .ok place =>
    let below :=
      (t.filesBelow place).filter fun names => keeps wanted excluded ignored ("/".intercalate names)
    (below.map root.under).mergeSort fun p q => !q.less p

def tooLong? (t : Project) (root : Path) : Option Path :=
  match t.place root with
  | .error _ => none
  | .ok place =>
    ((t.namesBelow place).map root.under).find? fun p => Project.pathLimit ≤ p.toString.utf8ByteSize

def find (t : Project) (root : Path) (s : Selection) : Logged (Except Fault (List Path)) :=
  match t.isFile root with
  | .error e => pure (.error (.file e))
  | .ok true => pure (.ok [root])
  | .ok false =>
    match Wildcard.ofLines s.wanted, Wildcard.ofLines s.excluded with
    | .error f, _ => pure (.error (.pattern f))
    | _, .error f => pure (.error (.pattern f))
    | .ok wanted, .ok excluded => do
      let ignored ← if s.useIgnoreFile then ignorePatterns t root else pure (.ok none)
      match ignored with
      | .error f => pure (.error f)
      | .ok ignored =>
        match tooLong? t root with
        | some p => pure (.error (.file (.refused .nameTooLong p)))
        | none =>
          let files := selectedFiles t root wanted excluded ignored
          Logged.debug "discovery"
            ("Discovered " ++ toString files.length ++ " file(s) under " ++ root.toString)
          pure (.ok files)

end ConfigKeeper.Discovery

namespace ConfigKeeper

def dropHere : List Char → List Char
  | '.' :: '/' :: r => dropHere r
  | s => s

/-- The form in which a rule's glob sees a path: forward slashes, then without leading `./`, then
without leading slashes. -/
def matchPath (path : String) : String :=
  let slashed := path.toList.map fun c => if c = '\\' then '/' else c
  String.ofList ((dropHere slashed).dropWhile (· = '/'))

end ConfigKeeper
