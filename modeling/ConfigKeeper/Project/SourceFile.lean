import ConfigKeeper.Log.Record
import ConfigKeeper.Problem

/-!
Source files as the program reads them: a file that gives no text is a problem, and a path that
cannot name a file is a failure.
-/

namespace ConfigKeeper.Project

def readSource (t : Project) (p : Path) : Logged (Except Failure String) :=
  match t.readText p with
  | .ok text => pure (.ok text)
  | .error (.file .nulInPath) => pure (.error (.file .nulInPath))
  | .error fault => do
    Logged.debug "parser" ("Failed to read " ++ p.toString ++ ": " ++ fault.message)
    pure (.error (.problem (.sourceRead p fault)))

end ConfigKeeper.Project
