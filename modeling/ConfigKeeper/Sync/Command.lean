import ConfigKeeper.Report.DiffView
import ConfigKeeper.Sync.Extraction
import ConfigKeeper.Sync.Session

/-!
Keeping local files and the store in step. Pulling writes every secret to its file; the difference
of each file to its secret can be shown; pushing sends at most one changed file back.
-/

namespace ConfigKeeper.Sync

open Console

variable {σ π : Type}

def displayed (root path : Path) : String := ((path.relativeTo? root).getD path).toString

def escaped (s : String) : List Char := Markup.escape s.toList

def inStyle (style : String) (text : List Char) : List Char :=
  ("[" ++ style ++ "]").toList ++ text ++ ("[/" ++ style ++ "]").toList

structure Drift where
  secret : SecretInfo
  remote : String
  localText : String
deriving DecidableEq, Repr

structure Outcome where
  written : List Path
  failures : List (Path × String)
  drifted : List Drift
  pushed : Option SecretInfo
deriving Repr

namespace Outcome

def isSuccess (o : Outcome) : Bool := o.failures.isEmpty

def ofExtraction (x : Extraction) : Outcome :=
  ⟨[], x.failures.map fun (path, p) => (path, p.message), [], none⟩

end Outcome

def failureLine (root path : Path) (p : Problem) : List Char :=
  inStyle "red"
    ("Failed to read ".toList ++ escaped (displayed root path) ++ ": ".toList ++ escaped p.message)

def foundLine (root path : Path) (count : Nat) : List Char :=
  ("🔍 " ++ toString count ++ " annotation(s) found in ").toList ++ escaped (displayed root path)

def printAll {α : Type} (k : Context σ π) (line : α → List Char) : List α → Action σ π Unit
  | [] => pure ()
  | x :: xs => do
    Action.printMarkup k.width (line x)
    printAll k line xs

def selection (s : Settings) : Discovery.Selection := ⟨s.configPatterns, s.excludePatterns, true⟩

def discover (k : Context σ π) (root : Path) : Action σ π Extraction := do
  let t ← Action.project
  let files ← Action.logged
    ((fun x => x.mapError Failure.ofDiscovery) <$> Discovery.find t root (selection k.settings))
  if files.isEmpty then Action.fail (.problem .configNotFound)
  else
    let x ← Action.logged (Extraction.ofFiles (Extractor.standard k.settings.ns) t files)
    printAll k (fun (path, p) => failureLine root path p) x.failures
    printAll k (fun (path, found) => foundLine root path found.length) x.entries
    pure x

def token (k : Context σ π) : Action σ π String :=
  Action.lift ((requireToken k.settings.token).mapError Failure.problem)

def resolve (k : Context σ π) (token : String) (i : SecretInfo) : Action σ π String := do
  let g ← Action.group k token i.groupPath
  match g.lookup i.name with
  | some value => pure value
  | none => Action.fail (.problem (.invalidSecretPath i.annotatedFile.toString i.raw))

def notFoundLine (root path : Path) : List Char :=
  '\'' :: escaped (displayed root path) ++ "' not found.".toList

def drift? (k : Context σ π) (token : String) (root : Path) (i : SecretInfo) :
    Action σ π (Option Drift) := do
  let t ← Action.project
  if ← Action.lift ((t.isPresent i.localPath).mapError Failure.file) then
    let text ← Action.logged (t.readSource i.localPath)
    let value ← resolve k token i
    pure (if Diff.hasDiff value.toList text.toList then some ⟨i, value, text⟩ else none)
  else
    Action.printMarkup k.width (notFoundLine root i.localPath)
    pure none

def driftOf (k : Context σ π) (token : String) (root : Path) :
    List SecretInfo → Action σ π (List Drift)
  | [] => pure []
  | i :: is => do
    let found ← drift? k token root i
    let rest ← driftOf k token root is
    pure (found.toList ++ rest)

def compare (k : Context σ π) (token : String) (root : Path) (is : List SecretInfo) :
    Action σ π (List Drift) := do
  let found ← driftOf k token root is
  Action.note (Logged.info "sync"
    (toString found.length ++ " of " ++ toString is.length ++ " secret(s) drifted"))
  pure found

def isLocal : Failure → Bool
  | .problem (.invalidSecretPath _ _) => true
  | .problem p => p.isSecretNotFound
  | .file (.refused _ _) => true
  | _ => false

def notCreatedLine (root path : Path) (reason : String) : List Char :=
  inStyle "red"
    ("Not created ".toList ++ escaped (displayed root path) ++ " because ".toList ++ escaped reason)

def createdLine (root path : Path) : List Char :=
  inStyle "green" ("Created ".toList ++ escaped (displayed root path))

def utf8 (s : String) : List UInt8 := Text.encodeUtf8 s.toList

def pullContent (k : Context σ π) (token : String) (i : SecretInfo) : Action σ π Unit := do
  let value ← resolve k token i
  Action.writeFile i.localPath (utf8 value)

def pullOne (k : Context σ π) (token : String) (root : Path) (i : SecretInfo) :
    Action σ π (Option String) := do
  match ← Action.attempt isLocal (pullContent k token i) with
  | .ok () =>
    Action.printMarkup k.width (createdLine root i.localPath)
    pure none
  | .error f =>
    Action.printMarkup k.width (notCreatedLine root i.localPath f.message)
    pure (some f.message)

def pullEach (k : Context σ π) (token : String) (root : Path) :
    List SecretInfo → Action σ π (List (Path × Option String))
  | [] => pure []
  | i :: is => do
    let reason ← pullOne k token root i
    let rest ← pullEach k token root is
    pure ((i.localPath, reason) :: rest)

def pull (k : Context σ π) (root : Path) : Action σ π Outcome := do
  let x ← discover k root
  let token ← token k
  let results ← pullEach k token root x.secrets
  let start := Outcome.ofExtraction x
  pure { start with
    written := results.filterMap fun (path, reason) => if reason.isNone then some path else none
    failures := start.failures ++ results.filterMap fun (path, reason) => reason.map fun r =>
      (path, r) }

def render (k : Context σ π) (root : Path) (d : Drift) : Action σ π Unit :=
  Action.print (Report.renderDiff k.width d.remote.toList d.localText.toList
    (displayed root d.secret.localPath).toList k.settings.contextLines)

def renderEach (k : Context σ π) (root : Path) : List Drift → Action σ π Unit
  | [] => pure ()
  | d :: ds => do
    render k root d
    renderEach k root ds

def sayPlain (k : Context σ π) (text : String) : Action σ π Unit :=
  Action.printMarkup k.width text.toList

def diff (k : Context σ π) (root : Path) : Action σ π Outcome := do
  let x ← discover k root
  let token ← token k
  let drifted ← compare k token root x.secrets
  if drifted.isEmpty then sayPlain k "The config files are up to date with the Vault Bunker."
  renderEach k root drifted
  pure { Outcome.ofExtraction x with drifted := drifted }

def upToDate : String :=
  "The config file is already up to date with the Vault Bunker. There are no changes to push."

def onlyOne : String :=
  "There is only one config file to update. Please review the changes below."

def selectQuestion : String := "Which one do you like to push the changes?"

def confirmQuestion : String := "Confirm this change & push?"

def option (root : Path) (d : Drift) : String :=
  displayed root d.secret.localPath ++ " " ++ d.secret.locator.toString

def chosen (ds : List Drift) : Option Int → Option Drift
  | some n => if 0 ≤ n then ds[n.toNat]? else none
  | none => none

def choose (k : Context σ π) (root : Path) (ds : List Drift) : Action σ π (Option Drift) :=
  match ds with
  | [d] => do
    sayPlain k onlyOne
    pure (some d)
  | ds => do
    let index ← Action.select k selectQuestion (ds.map (option root))
    pure (chosen ds index)

def pushedLine (root : Path) (i : SecretInfo) : List Char :=
  inStyle "green" ("✅ Pushed ".toList ++ escaped (displayed root i.localPath) ++ " to ".toList ++
    escaped i.locator.toString)

def send (k : Context σ π) (token : String) (root : Path) (d : Drift) : Action σ π Unit := do
  let g ← Action.group k token d.secret.groupPath
  Action.update k token d.secret.groupPath (g.merge [(d.secret.name, d.localText)])
  Action.note (Logged.info "sync" ("Pushed " ++ d.secret.name ++ " to " ++ d.secret.groupPath))
  Action.printMarkup k.width (pushedLine root d.secret)

def pushChosen (k : Context σ π) (token : String) (root : Path) (d : Drift) :
    Action σ π (Option SecretInfo) := do
  render k root d
  if ← Action.confirm k confirmQuestion then
    send k token root d
    pure (some d.secret)
  else
    sayPlain k "Push cancelled."
    pure none

def pushDrifted (k : Context σ π) (token : String) (root : Path) (ds : List Drift) :
    Action σ π (Option SecretInfo) := do
  if ds.isEmpty then
    sayPlain k upToDate
    pure none
  else
    match ← choose k root ds with
    | some d => pushChosen k token root d
    | none =>
      sayPlain k "No selection made, exiting..."
      pure none

def push (k : Context σ π) (root : Path) : Action σ π Outcome := do
  let x ← discover k root
  let token ← token k
  let drifted ← compare k token root x.secrets
  let pushed ← pushDrifted k token root drifted
  pure { Outcome.ofExtraction x with drifted := drifted, pushed := pushed }

end ConfigKeeper.Sync
