import ConfigKeeper.CommandLine.Arguments
import ConfigKeeper.CommandLine.Guard
import ConfigKeeper.CommandLine.Terminal
import ConfigKeeper.Log.Setup
import ConfigKeeper.Store.Vault
import ConfigKeeper.Sync.Command

/-!
Runs of the program. A run sets up logging, carries out one command and ends with an exit code: zero
if the command came to its end and nothing failed or was found, one otherwise.
-/

namespace ConfigKeeper.CommandLine

open Sync

structure Surroundings (σ : Type) where
  project : Project
  /-- The variables once those of the `.env` file in the working directory are among them. -/
  environment : Environment
  width : Nat
  typed : String
  transport : Vault.Transport σ
  state : σ
  codecs : Text.Codecs := .unicode
  /-- How so many workers lint files. One needs no other order than that of the files. -/
  lintPaths : Nat → List Path → Logged (Except Failure Lint.Report) := fun _ => Lint.lintPaths .default project

structure Finish (σ : Type) where
  exitCode : Int
  printed : List (List Char)
  loggers : Log.Registry
  records : List Log.Record
  project : Project
  state : σ

def exitCode (good : Bool) : Int := if good then 0 else failureCode

theorem exitCode_eq_zero {good : Bool} : exitCode good = 0 ↔ good = true := by
  cases good <;> simp [exitCode, failureCode]

def title (c : Command) : String := "Failed to " ++ c.name ++ " dev config"

namespace Surroundings

variable {σ α : Type} (s : Surroundings σ)

def settings : Except Failure Settings :=
  (Settings.read s.environment []).mapError fun vs => .problem (Settings.invalid vs)

def context (settings : Settings) : Context σ Terminal :=
  ⟨Vault.store settings.storeUrl s.transport s.codecs, Terminal.prompter s.width, settings, s.width⟩

def session : Session σ Terminal := .start s.project s.state (Terminal.ofText s.typed)

def guarded (c : Command) (result : Except Failure α) : Guarded α :=
  CommandLine.guarded s.width c.name (title c) (result.mapError Interruption.failure)

def act (action : Context σ Terminal → Action σ Terminal α) : Action σ Terminal α := do
  let settings ← Action.lift s.settings
  action (s.context settings)

def account : Command → Outcome → List Log.Record
  | .pull, o => [⟨Log.infoLevel, "cli.sync",
      "Pulled " ++ toString o.written.length ++ " file(s), " ++ toString o.failures.length ++
        " failed"⟩]
  | _, _ => []

def sync (loggers : Log.Registry) (c : Command)
    (action : Context σ Terminal → Action σ Terminal Outcome) : Finish σ :=
  let (result, after) := (s.act action).result s.session
  let g := s.guarded c result
  let (code, closing) := match g.result with
    | .ok o => (exitCode o.isSuccess, account c o)
    | .error code => (code, [])
  { exitCode := code
    printed := after.printed ++ after.prompter.continued g.printed
    loggers := loggers
    records := after.records ++ g.records ++ closing
    project := after.project
    state := after.store }

def nothingToLint (root : Path) : Failure :=
  .reported ("No Elixir config files found under " ++ root.toString) (some Command.lint.name)
    (some "Run the command from the root of an Elixir project.")

def lintSelection (settings : Settings) : Discovery.Selection :=
  ⟨settings.lintPatterns, settings.excludePatterns, true⟩

def lintReport (root : Path) (workers : Nat) : Logged (Except Failure Lint.Report) :=
  match s.settings with
  | .error f => pure (.error f)
  | .ok settings => do
    match ← Discovery.find s.project root (lintSelection settings) with
    | .error f => pure (.error (Failure.ofDiscovery f))
    | .ok [] => pure (.error (nothingToLint root))
    | .ok files => do
      Logged.info "cli.lint" ("Linting " ++ toString files.length ++ " file(s)")
      s.lintPaths workers files

def lint (loggers : Log.Registry) (root : Path) (workers : Nat) : Finish σ :=
  let found := s.lintReport root workers
  let g := s.guarded .lint found.value
  let (code, lines, closing) := match g.result with
    | .ok report => match Report.renderReport s.width report with
      | .ok lines => (exitCode (Report.isSpotless report), lines, Report.summaryRecords report)
      | .error _ => (failureCode, [], [])
    | .error code => (code, [], [])
  { exitCode := code
    printed := g.printed ++ lines
    loggers := loggers
    records := found.records ++ g.records ++ closing
    project := s.project
    state := s.state }

def perform (loggers : Log.Registry) (i : Invocation) : Finish σ :=
  match i.command with
  | .pull => s.sync loggers .pull fun k => pull k i.path
  | .push => s.sync loggers .push fun k => push k i.path
  | .diff => s.sync loggers .diff fun k => diff k i.path
  | .lint => s.lint loggers i.path i.jobs

def stopped : Finish σ := ⟨failureCode, [], .initial, [], s.project, s.state⟩

def carryOut (i : Invocation) : Finish σ :=
  match Log.setUp .initial s.project ⟨none, some i.level, false⟩ with
  | .error _ => s.stopped
  | .ok (loggers, records) =>
    let f := s.perform loggers i
    { f with records := records ++ f.records }

def run (words : List String) : Except UsageFault (Finish σ) :=
  (Invocation.ofArguments s.project words).map s.carryOut

end Surroundings

end ConfigKeeper.CommandLine
