import ConfigKeeper.Log.Record
import ConfigKeeper.Project.Tree
import ConfigKeeper.Text.Lines
import ConfigKeeper.Text.Utf8

/-!
Reading a file as text: strict UTF-8, and every line end becomes a line feed.
-/

namespace ConfigKeeper

inductive ReadFault
  | file (e : FileError)
  | utf8 (f : Text.Utf8Fault)
deriving DecidableEq, Repr

def ReadFault.message : ReadFault → String
  | .file e => e.message
  | .utf8 f => f.message

def textOfBytes (bytes : List UInt8) : Except Text.Utf8Fault String :=
  (Text.decodeUtf8 bytes).map fun s => String.ofList (Text.unifyNewlines s)

namespace Project

def readText (t : Project) (p : Path) : Except ReadFault String :=
  match t.readFile p with
  | .error e => .error (.file e)
  | .ok bytes => match textOfBytes bytes with
    | .error f => .error (.utf8 f)
    | .ok s => .ok s

end Project

end ConfigKeeper
