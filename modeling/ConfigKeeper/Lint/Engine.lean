import ConfigKeeper.Lint.Registry
import ConfigKeeper.Project.SourceFile

/-!
Running the rules of a registry over sources and files. A file that cannot be read is recorded and
the others are checked all the same.
-/

namespace ConfigKeeper.Lint

def logName : String := "lint.engine"

structure Report where
  diagnostics : List Diagnostic
  filesChecked : Nat
  rulesRun : Nat
  failedFiles : List (Path × String)

def Report.isClean (r : Report) : Bool := r.diagnostics.isEmpty

def reported (r : Rule) (count : Nat) (file : String) : Log.Record :=
  ⟨Log.debugLevel, logName,
    r.name ++ " reported " ++ toString count ++ " issue(s) in " ++ file⟩

def syntaxWarning (source : Elixir.Source) (file : String) : List Log.Record :=
  if source.hasError then
    [⟨Log.warningLevel, logName,
      file ++ " contains syntax errors, results may be incomplete"⟩]
  else []

def lintSource (g : Registry) (text file : String) : Logged (List Diagnostic) :=
  match g.rulesFor file with
  | [] => do
    Logged.debug logName ("No lint rule applies to " ++ file)
    pure []
  | rules =>
    let source := Elixir.Source.parse text
    ⟨rules.flatMap fun r => r.evaluate source file,
      syntaxWarning source file ++
        rules.map fun r => reported r (r.evaluate source file).length file⟩

def lintFile (g : Registry) (t : Project) (file : Path) :
    Logged (Except Failure (List Diagnostic)) := do
  match ← t.readSource file with
  | .error f => pure (.error f)
  | .ok text => do
    let found ← lintSource g text file.toString
    pure (.ok found)

abbrev FileResult := Except String (List Diagnostic)

def lintOne (g : Registry) (t : Project) (file : Path) : Logged (Except Failure FileResult) := do
  match ← lintFile g t file with
  | .ok found => pure (.ok (.ok found))
  | .error (.problem p) => do
    Logged.warn logName ("Failed to lint " ++ file.toString ++ ": " ++ p.message)
    pure (.ok (.error p.message))
  | .error f => pure (.error f)

def lintEach (g : Registry) (t : Project) :
    List Path → Logged (Except Failure (List (Path × FileResult)))
  | [] => pure (.ok [])
  | file :: files => do
    match ← lintOne g t file with
    | .error f => pure (.error f)
    | .ok result =>
      match ← lintEach g t files with
      | .error f => pure (.error f)
      | .ok rest => pure (.ok ((file, result) :: rest))

def Report.ofResults (g : Registry) (results : List (Path × FileResult)) : Report where
  diagnostics := results.flatMap fun (_, r) => match r with
    | .ok found => found
    | .error _ => []
  filesChecked := (results.filter fun (_, r) => r.isOk).length
  rulesRun := g.rules.length
  failedFiles := results.filterMap fun (file, r) => match r with
    | .ok _ => none
    | .error reason => some (file, reason)

def lintPaths (g : Registry) (t : Project) (files : List Path) :
    Logged (Except Failure Report) := do
  match ← lintEach g t files with
  | .error f => pure (.error f)
  | .ok results => pure (.ok (Report.ofResults g results))

end ConfigKeeper.Lint
