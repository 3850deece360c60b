import ConfigKeeper.Diff.Script
import ConfigKeeper.Report.ErrorView
import ConfigKeeper.Report.LintView
import ConfigKeeper.Settings
import ConfigKeeper.Sync.Cache

/-!
Runs of commands. A run changes a session: the project's files, the store, the one who is asked,
what was printed and what was logged. A failure ends it and keeps what was done before.
-/

namespace ConfigKeeper.Sync

structure Prompted (α : Type) where
  answer : Except Failure α
  printed : List (List Char)

/-- One who decides. A selection is the index of an option, or none. -/
structure Prompter (π : Type) where
  confirm : π → String → Prompted Bool × π
  select : π → String → List String → Prompted (Option Int) × π

structure Context (σ π : Type) where
  store : SecretStore σ
  prompter : Prompter π
  settings : Settings
  width : Nat

structure Session (σ π : Type) where
  project : Project
  store : σ
  prompter : π
  cache : Cache
  printed : List (List Char)
  records : List Log.Record

def Session.start {σ π : Type} (project : Project) (store : σ) (prompter : π) : Session σ π :=
  ⟨project, store, prompter, .empty, [], []⟩

abbrev Action (σ π α : Type) := ExceptT Failure (StateM (Session σ π)) α

namespace Action

variable {σ π α : Type}

def of (f : Session σ π → Except Failure α × Session σ π) : Action σ π α := f

def result (a : Action σ π α) (s : Session σ π) : Except Failure α × Session σ π := a s

def fail (f : Failure) : Action σ π α := of fun s => (.error f, s)

def project : Action σ π Project := of fun s => (.ok s.project, s)

def print (lines : List (List Char)) : Action σ π Unit :=
  of fun s => (.ok (), { s with printed := s.printed ++ lines })

def logged (x : Logged (Except Failure α)) : Action σ π α :=
  of fun s => (x.value, { s with records := s.records ++ x.records })

def note (x : Logged Unit) : Action σ π Unit := logged (Except.ok <$> x)

def lift (x : Except Failure α) : Action σ π α := of fun s => (x, s)

def printMarkup (width : Nat) (text : List Char) : Action σ π Unit := do
  print (← lift ((Report.markupLines width text).mapError Report.ofMarkup))

def group (k : Context σ π) (token name : String) : Action σ π Group :=
  of fun s =>
    let found := s.cache.group k.store token name s.store
    (found.answer.value,
      { s with
        cache := found.cache
        store := found.state
        records := s.records ++ found.answer.records })

def update (k : Context σ π) (token name : String) (data : Group) : Action σ π Unit :=
  of fun s =>
    let (answer, next) := k.store.update s.store token name data
    (answer.value, { s with store := next, records := s.records ++ answer.records })

def confirm (k : Context σ π) (message : String) : Action σ π Bool :=
  of fun s =>
    let (asked, next) := k.prompter.confirm s.prompter message
    (asked.answer, { s with prompter := next, printed := s.printed ++ asked.printed })

def select (k : Context σ π) (message : String) (options : List String) : Action σ π (Option Int) :=
  of fun s =>
    let (asked, next) := k.prompter.select s.prompter message options
    (asked.answer, { s with prompter := next, printed := s.printed ++ asked.printed })

/-- Writes a file and makes the directories above it. Directories stay even if the file cannot be
written. -/
def writeFile (path : Path) (content : List UInt8) : Action σ π Unit :=
  of fun s =>
    match s.project.ensureDirectory path.parent with
    | (t, some e) => (.error (.file e), { s with project := t })
    | (t, none) => match t.writeFile path content with
      | .ok t => (.ok (), { s with project := t })
      | .error e => (.error (.file e), { s with project := t })

def attempt (p : Failure → Bool) (a : Action σ π α) : Action σ π (Except Failure α) :=
  of fun s =>
    match a.result s with
    | (.ok x, s) => (.ok (.ok x), s)
    | (.error f, s) => (if p f then .ok (.error f) else .error f, s)

end Action

end ConfigKeeper.Sync
