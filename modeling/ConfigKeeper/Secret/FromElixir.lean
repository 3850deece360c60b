import ConfigKeeper.Elixir.Imports
import ConfigKeeper.Log.Record
import ConfigKeeper.Project.SourceFile
import ConfigKeeper.Secret.Info

/-!
Secrets of an Elixir config file: imports with an annotation comment directly before them.
-/

namespace ConfigKeeper

open Elixir

namespace Annotation

def defaultNamespace : String := "wukong.mindvalley.dev"

/-- A comment and an imported piece that it annotates. Behind a check the piece comes once for each
piece of the checked name with the same text. -/
structure Candidate where
  comment : Spot
  check : Option Spot
  piece : Spot

def importedPieces (comment : Spot) (shape : ImportShape) : List Candidate :=
  if shape.isImport then
    match shape with
    | .bare call => call.pieces.map fun p => ⟨comment, none, p⟩
    | shape =>
      if shape.isGuard then
        (shape.piecePairs.filter fun (c, p) => c.text = p.text).map fun (c, p) => ⟨comment, some c, p⟩
      else []
  else []

def annotated (ns : String) (comment next : Spot) : List Candidate :=
  if (commentHead? ns comment.text).isSome then
    match importShape? next with
    | some shape => importedPieces comment shape
    | none => []
  else []

def written (ns : String) (tree : Tree) : List Candidate :=
  tree.commented.flatMap fun (comment, next) => annotated ns comment next

/-- The candidates in the order in which their pieces are reached in the text. A comment inside an
annotated import comes before what is left of that import. -/
def candidates (ns : String) (tree : Tree) : List Candidate :=
  let all := written ns tree
  tree.plainSpots.flatMap fun s => all.filter fun c => c.piece.place = s.place

def Candidate.decode? (c : Candidate) : Option Annotation :=
  Annotation.decode? c.comment.text c.piece.text

def readTree (ns : String) (tree : Tree) : List Annotation :=
  (candidates ns tree).filterMap Candidate.decode?

def malformed (ns : String) (tree : Tree) : List Log.Record :=
  (candidates ns tree).filterMap fun c =>
    match c.decode? with
    | some _ => none
    | none =>
      some ⟨Log.warningLevel, "annotations", "Skipping malformed annotation: " ++ c.comment.text⟩

def read (ns : String) (strict : Bool) (text : String) :
    Logged (Except Problem (List Annotation)) :=
  let source := Source.parse text
  if strict && source.hasError then pure (.error .syntaxErrors)
  else ⟨.ok (readTree ns source.tree), malformed ns source.tree⟩

end Annotation

namespace ElixirConfig

def name : String := "elixir_config"

def provider : String := "bunker"

def supportedSource : String := "vault"

def supportedEngine : String := "secret"

def asciiLower (s : String) : String := s.map Char.toLower

def handles (p : Path) : Bool := [".ex", ".exs"].contains (asciiLower p.suffix)

def isSupported (ns : String) (a : Annotation) : Bool :=
  a.key = Annotation.keyOf ns && a.locator.source = supportedSource &&
    a.locator.engine = supportedEngine

def secretsOf (ns : String) (file : Path) (annotations : List Annotation) : List SecretInfo :=
  (annotations.filter (isSupported ns)).map fun a => .annotated a provider name file none

def ignoredOf (ns : String) (annotations : List Annotation) : List Log.Record :=
  (annotations.filter fun a => !isSupported ns a).map fun a =>
    ⟨Log.debugLevel, "extractors.elixir_config", "Ignoring unsupported annotation: " ++ a.raw⟩

def extract (ns : String) (file : Path) (text : String) :
    Logged (Except Problem (List SecretInfo)) := do
  match ← Annotation.read ns true text with
  | .error p => pure (.error p)
  | .ok annotations =>
    let found := secretsOf ns file annotations
    ⟨(), ignoredOf ns annotations⟩
    Logged.debug "extractors.elixir_config"
      ("Found " ++ toString found.length ++ " annotation(s) in " ++ file.toString)
    pure (.ok found)

def extractFile (ns : String) (t : Project) (file : Path) :
    Logged (Except Failure (List SecretInfo)) := do
  match ← t.readSource file with
  | .error f => pure (.error f)
  | .ok text => do
    let found ← extract ns file text
    pure (found.mapError Failure.problem)

def parseFile (file : Path) (text : String) (strict : Bool) : Except Problem Source :=
  let source := Source.parse text
  if strict && source.hasError then
    .error (.plain .sourceParse
      ("Failed to parse " ++ file.toString ++ ": " ++ Problem.syntaxErrors.message) none)
  else .ok source

end ElixirConfig

end ConfigKeeper
