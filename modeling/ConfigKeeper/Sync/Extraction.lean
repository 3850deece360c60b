import ConfigKeeper.Secret.FromElixir
import ConfigKeeper.Secret.FromManifest

/-!
Secrets of many files. The first extractor that handles a file reads it; a file with a problem is
kept apart and does not affect the others.
-/

namespace ConfigKeeper

structure Extractor where
  name : String
  handles : Path → Bool
  extract : Project → Path → Logged (Except Failure (List SecretInfo))

def Extractor.standard (ns : String) : List Extractor := [
  ⟨ElixirConfig.name, ElixirConfig.handles, ElixirConfig.extractFile ns⟩,
  ⟨Manifest.name, Manifest.handles, Manifest.extractFile⟩]

structure Extraction where
  entries : List (Path × List SecretInfo)
  failures : List (Path × Problem)
deriving Repr

namespace Extraction

def logSource : String := "sync"

def empty : Extraction := ⟨[], []⟩

def append (x y : Extraction) : Extraction := ⟨x.entries ++ y.entries, x.failures ++ y.failures⟩

def secrets (x : Extraction) : List SecretInfo := x.entries.flatMap Prod.snd

def read (e : Extractor) (t : Project) (file : Path) : Logged (Except Failure Extraction) := do
  match ← e.extract t file with
  | .ok found =>
    Logged.debug logSource
      (e.name ++ " extracted " ++ toString found.length ++ " locator(s) from " ++ file.toString)
    pure (.ok ⟨[(file, found)], []⟩)
  | .error (.problem p) =>
    Logged.warn logSource ("Failed to extract secrets from " ++ file.toString ++ ": " ++ p.message)
    pure (.ok ⟨[], [(file, p)]⟩)
  | .error f => pure (.error f)

def ofFile (es : List Extractor) (t : Project) (file : Path) : Logged (Except Failure Extraction) :=
  match es.find? fun e => e.handles file with
  | some e => read e t file
  | none => do
    Logged.debug logSource ("No extractor handles " ++ file.toString)
    pure (.ok empty)

def ofFiles (es : List Extractor) (t : Project) : List Path → Logged (Except Failure Extraction)
  | [] => pure (.ok empty)
  | file :: files => do
    match ← ofFile es t file with
    | .error f => pure (.error f)
    | .ok x =>
      let rest ← ofFiles es t files
      pure (rest.map x.append)

end Extraction

end ConfigKeeper
