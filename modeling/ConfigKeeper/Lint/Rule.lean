import ConfigKeeper.Elixir.Imports
import ConfigKeeper.Lint.Diagnostic
import ConfigKeeper.Project.Discovery

/-!
Lint rules: what a rule looks for in a syntax tree, the files it applies to, and the rules that come
with the program.
-/

namespace ConfigKeeper.Lint

open Elixir

inductive Check
  | environmentReads
  | unguardedImports
deriving DecidableEq, Repr

structure Rule where
  label : String
  check : Check
  name : String
  glob : String
  explain : String
  advice : String
deriving DecidableEq, Repr

namespace Rule

def describe (r : Rule) : String :=
  r.label ++ "(name=" ++ quoted r.name ++ ", glob=" ++ quoted r.glob ++ ")"

def checked (r : Rule) : Except Wildcard.PatternFault Rule :=
  (Wildcard.ofLines [r.glob]).map fun _ => r

def patterns (r : Rule) : Wildcard.Patterns :=
  match Wildcard.ofLines [r.glob] with
  | .ok ps => ps
  | .error _ => []

def appliesTo (r : Rule) (path : String) : Bool := Wildcard.selects r.patterns (matchPath path)

def isMismatchedGuard (s : ImportShape) : Bool :=
  s.isGuard && s.piecePairs.any fun (checked, imported) => checked.text != imported.text

def isUnguarded : ImportShape → Bool
  | .bare call => !call.pieces.isEmpty
  | shape => isMismatchedGuard shape

def isUnguardedImport (t : Tree) : Bool :=
  match importShape? t.spot with
  | some shape => shape.isImport && isUnguarded shape
  | none => false

def Check.flags (check : Check) (n : Tree.Located) : Bool :=
  match check with
  | .environmentReads => isEnvironmentRead n.tree.spot
  | .unguardedImports => n.parent = some .source && isUnguardedImport n.tree

/-- The imported pieces that show an import to be unguarded. Behind a check a piece comes once for each
checked one that differs from it. -/
def unguardedPieces : ImportShape → List Spot
  | .bare call => call.pieces
  | shape => (shape.piecePairs.filter fun (c, p) => c.text != p.text).map Prod.snd

/-- The places below a node at which the text shows it to be what a check looks for: the pieces, or the
block of a read that goes on with one. -/
def Check.places (check : Check) (s : Spot) : List (List Nat) :=
  match check with
  | .environmentReads => (namePieces s).map fun p => ((s.childOfKind? .doBlock).getD p).place
  | .unguardedImports => (importShape? s).elim [] fun shape => (unguardedPieces shape).map Spot.place

structure Match where
  node : Tree.Located
  shown : Nat

def matchesIn (r : Rule) (source : Source) : List Match :=
  (source.tree.nodes.filter (Check.flags r.check)).flatMap fun n =>
    (Check.places r.check n.tree.spot).map fun p => ⟨n, n.offset + n.tree.offsetAt p⟩

def inOrder (length : Nat) (ms : List Match) : List Match :=
  (List.range (length + 1)).flatMap fun i => ms.filter fun m => m.shown = i

/-- The nodes that a rule reports, each when the text first shows it, which may be after one below it. -/
def found (r : Rule) (source : Source) : List Tree.Located :=
  Tree.Located.unseen [] ((inOrder source.text.length (r.matchesIn source)).map Match.node)

def diagnose (r : Rule) (file : String) (source : List Char) (n : Tree.Located) : Diagnostic :=
  .ofPositions r.name file r.explain r.advice source n.offset (n.offset + n.tree.text.length)

def evaluate (r : Rule) (source : Source) (file : String) : List Diagnostic :=
  (r.found source).map (r.diagnose file source.text.toList)

end Rule

def noEnvInDevConfig : Rule where
  label := "NoEnvInDevConfig"
  check := .environmentReads
  name := "no_env_in_dev_config"
  glob := "**/config/dev.exs"
  explain := "Dev config must not contains any environment variables"
  advice := "Use a static value instead of reading from environment variable. " ++
    "Also if this is a secret, move it to the `dev.secrets.exs` instead."

def noEnvInMainConfig : Rule where
  label := "NoEnvInMainConfig"
  check := .environmentReads
  name := "no_env_in_main_config"
  glob := "**/config/config.exs"
  explain := "Main config must not contains any environment variables"
  advice := "`config/config.exs` is evaluated at compile time. Read environment " ++
    "variables in `config/runtime.exs` instead."

def importsAreGuarded : Rule where
  label := "UseImportConfigWithFileExistsChecking"
  check := .unguardedImports
  name := "use_import_config_with_file_exists_checking"
  glob := "**/config/dev.exs"
  explain := "Considering checking the existence of the file before importing " ++
    "using `File.exists?/2` function."
  advice := "Guard the import with `File.exists?/1` checking the same file that " ++
    "is imported, either in an `if` block or with `&&`."

def builtInRules : List Rule := [noEnvInDevConfig, noEnvInMainConfig, importsAreGuarded]

end ConfigKeeper.Lint
