import ConfigKeeper.CommandLine.Run
import ConfigKeeper.Proofs.Lint.Order
import ConfigKeeper.Proofs.Log.SetUp
import ConfigKeeper.Proofs.Report.Shown
import ConfigKeeper.Proofs.Sync.Found
import ConfigKeeper.Proofs.Sync.Success

namespace ConfigKeeper.CommandLine

open Console

section Guard

/-- The guard of a command's block lets an exit through with its own code and shows nothing. Of a
failure it makes exit code one and one panel, which has the command's title and the failure's text. -/
structure Guards (width : Nat) (c : Command) : Prop where
  exit : ∀ (α : Type) (code : Int), guarded width c.name (title c) (.error (.exit code) : Except Interruption α) =
    ⟨.error code, .ok [], []⟩
  failure : ∀ (α : Type) (f : Failure), ∃ heading body,
    Markup.render (Report.errorTitle (title c)).toList = .ok heading ∧
    Markup.render (Report.errorMarkup (Report.reportedForm f c.name)) = .ok body ∧
    guarded width c.name (title c) (.error (.failure f) : Except Interruption α) =
      ⟨.error failureCode, .ok (panel width heading [body]), [Report.errorRecord f c.name (title c)]⟩

lemma title_no_bracket (c : Command) : '[' ∉ (Report.errorTitle (title c)).toList := by
  cases c <;> decide

theorem guards (width : Nat) (c : Command) : Guards width c where
  exit α code := rfl
  failure α f := by
    obtain ⟨heading, body, hheading, hbody, hpanel⟩ := Report.renderError_shown (title_no_bracket c) width f c.name
    refine ⟨heading, body, hheading, hbody, ?_⟩
    rw [guarded, hpanel]

end Guard

lemma exitCode_zero_or_one (good : Bool) : exitCode good = 0 ∨ exitCode good = 1 := by
  cases good
  · exact .inr rfl
  · exact .inl rfl

def Command.sync? : Command → Option Sync.Command
  | .pull => some .pull
  | .push => some .push
  | .diff => some .diff
  | .lint => none

structure Ending where
  result : Except Failure Unit
  printed : List (List Char)
  terminal : Terminal

namespace Surroundings

variable {σ α : Type} (s : Surroundings σ)

/-- The settings are valid and the command comes to its end. No file that it finds fails, and a pull
writes the file of every secret. -/
def Synced (c : Sync.Command) (root : Path) : Prop :=
  ∃ settings x o s₁ s₂, s.settings = .ok settings ∧
    (Sync.discover (s.context settings) root).result s.session = (.ok x, s₁) ∧ x.failures = [] ∧
    (c.run (s.context settings) root).result s.session = (.ok o, s₂) ∧
    (c = .pull → o.written = x.secrets.map SecretInfo.localPath)

/-- The settings are valid and files are found. Each can be read, and no rule finds anything in it. -/
def Linted (root : Path) : Prop :=
  ∃ settings files, s.settings = .ok settings ∧
    (Discovery.find s.project root (lintSelection settings)).value = .ok files ∧ files ≠ [] ∧
    ∀ file ∈ files, Lint.Clean .default s.project file

/-- Files are linted by a pool of workers, who may be done in any order. -/
def Pooled : Prop :=
  ∀ workers files, Lint.Answers .default s.project workers files (s.lintPaths workers files).value

def Succeeds (i : Invocation) : Prop :=
  match i.command.sync? with
  | some c => s.Synced c i.path
  | none => s.Linted i.path

def ending (i : Invocation) : Ending :=
  match i.command.sync? with
  | some c =>
    let (result, after) := (s.act fun k => c.run k i.path).result s.session
    ⟨result.map fun _ => (), after.printed, after.prompter⟩
  | none => ⟨(s.lintReport i.path i.jobs).value.map fun _ => (), [], .ofText s.typed⟩

structure Tells (i : Invocation) (f : Finish σ) : Prop where
  zero_or_one : f.exitCode = 0 ∨ f.exitCode = 1
  zero_iff : f.exitCode = 0 ↔ s.Succeeds i
  guards : Guards s.width i.command
  panel : ∀ e, (s.ending i).result = .error e → ∃ heading body,
    Markup.render (Report.errorTitle (title i.command)).toList = .ok heading ∧
    Markup.render (Report.errorMarkup (Report.reportedForm e i.command.name)) = .ok body ∧
    f.printed = (s.ending i).printed ++ (s.ending i).terminal.continued (panel s.width heading [body])

variable {s}

lemma result_act {settings : Settings} (h : s.settings = .ok settings)
    (action : Sync.Context σ Terminal → Sync.Action σ Terminal α) :
    (s.act action).result s.session = (action (s.context settings)).result s.session := by
  rw [act, h]
  rfl

lemma result_act_of_invalid {e : Failure} (h : s.settings = .error e)
    (action : Sync.Context σ Terminal → Sync.Action σ Terminal α) :
    (s.act action).result s.session = (.error e, s.session) := by
  rw [act, h]
  rfl

section Code

variable {root : Path}

lemma exitCode_sync (loggers : Log.Registry) (c : Command)
    (action : Sync.Context σ Terminal → Sync.Action σ Terminal Sync.Outcome) :
    (s.sync loggers c action).exitCode = exitCode (match ((s.act action).result s.session).1 with
      | .ok o => o.isSuccess
      | .error _ => false) := by
  rw [sync]
  rcases (s.act action).result s.session with ⟨e | o, after⟩ <;> rfl

theorem exitCode_sync_iff (loggers : Log.Registry) (command : Command) (c : Sync.Command) :
    (s.sync loggers command fun k => c.run k root).exitCode = 0 ↔ s.Synced c root := by
  rw [exitCode_sync, exitCode_eq_zero]
  cases hs : s.settings with
  | error e =>
    rw [result_act_of_invalid hs, Synced, hs]
    simp
  | ok settings =>
    rw [result_act hs]
    constructor
    · intro h
      rcases hr : (c.run (s.context settings) root).result s.session with ⟨e | o, s₂⟩
      · rw [hr] at h
        cases h
      · rw [hr] at h
        obtain ⟨x, s₁, hx, hiff⟩ := Sync.isSuccess_of_run hr
        obtain ⟨hfailures, hwritten⟩ := hiff.1 h
        exact ⟨settings, x, o, s₁, s₂, hs, hx, hfailures, hr, hwritten⟩
    · rintro ⟨own, x, o, s₁, s₂, hown, hx, hfailures, hr, hwritten⟩
      obtain rfl := Except.ok.inj (hs.symm.trans hown)
      obtain ⟨found, s₃, hfound, hiff⟩ := Sync.isSuccess_of_run hr
      obtain rfl := Except.ok.inj (congrArg Prod.fst (hx.symm.trans hfound))
      rw [hr]
      exact hiff.2 ⟨hfailures, hwritten⟩

lemma value_lintReport {settings : Settings} (hpool : s.Pooled) (h : s.settings = .ok settings) (root : Path)
    (workers : ℕ) :
    (s.lintReport root workers).value = match (Discovery.find s.project root (lintSelection settings)).value with
      | .error f => .error (Failure.ofDiscovery f)
      | .ok [] => .error (nothingToLint root)
      | .ok files => (Lint.lintPaths .default s.project files).value := by
  have hanswer (files : List Path) :
      (s.lintPaths workers files).value = (Lint.lintPaths .default s.project files).value :=
    (Lint.answers_iff workers _).1 (hpool workers files)
  rw [lintReport, h]
  simp only [Logged.value_bind]
  rcases (Discovery.find s.project root (lintSelection settings)).value with f | (_ | ⟨file, files⟩)
  · rfl
  · rfl
  · exact hanswer (file :: files)

lemma exitCode_lint (loggers : Log.Registry) (workers : ℕ) : (s.lint loggers root workers).exitCode =
    match (s.lintReport root workers).value with
    | .ok report => match Report.renderReport s.width report with
      | .ok _ => exitCode (Report.isSpotless report)
      | .error _ => failureCode
    | .error _ => failureCode := by
  rw [lint]
  simp only
  cases (s.lintReport root workers).value with
  | error e => rfl
  | ok report =>
    simp only [guarded, CommandLine.guarded, Except.mapError]
    cases Report.renderReport s.width report <;> rfl

lemma exitCode_lint_eq_zero_iff (loggers : Log.Registry) (workers : ℕ) :
    (s.lint loggers root workers).exitCode = 0 ↔
      ∃ report, (s.lintReport root workers).value = .ok report ∧ Report.isSpotless report = true := by
  rw [exitCode_lint]
  cases (s.lintReport root workers).value with
  | error e => simp [failureCode]
  | ok report =>
    cases hspotless : Report.isSpotless report with
    | true =>
      obtain ⟨lines, hlines⟩ := Report.renderReport_shown hspotless s.width
      simp [hlines, hspotless, exitCode]
    | false =>
      simp only [hspotless]
      split <;> simp_all [exitCode, failureCode]

theorem exitCode_lint_iff (hpool : s.Pooled) (loggers : Log.Registry) (workers : ℕ) :
    (s.lint loggers root workers).exitCode = 0 ↔ s.Linted root := by
  rw [exitCode_lint_eq_zero_iff, Linted]
  cases hs : s.settings with
  | error e => simp [lintReport, hs, Logged.value_pure]
  | ok settings =>
    rw [value_lintReport hpool hs]
    rcases hfind : (Discovery.find s.project root (lintSelection settings)).value with f | (_ | ⟨file, files⟩)
    · simp [hfind]
    · simp [hfind]
    · simp only
      rw [Lint.lintPaths_spotless_iff]
      simp [hfind]

end Code

section Panel

variable {root : Path} {c : Command} {e : Failure}

lemma printed_guarded {heading body : List Char}
    (h : CommandLine.guarded s.width c.name (title c) (.error (.failure e) : Except Interruption α) =
      ⟨.error failureCode, .ok (panel s.width heading [body]), [Report.errorRecord e c.name (title c)]⟩) :
    (s.guarded c (.error e : Except Failure α)).printed = panel s.width heading [body] := by
  rw [guarded, Except.mapError, h]
  rfl

lemma printed_sync (loggers : Log.Registry) {action : Sync.Context σ Terminal → Sync.Action σ Terminal Sync.Outcome}
    {after : Sync.Session σ Terminal} (h : (s.act action).result s.session = (.error e, after)) :
    (s.sync loggers c action).printed =
      after.printed ++ after.prompter.continued (s.guarded c (.error e : Except Failure Sync.Outcome)).printed := by
  rw [sync, h]

lemma printed_lint (loggers : Log.Registry) {workers : ℕ} (h : (s.lintReport root workers).value = .error e) :
    (s.lint loggers root workers).printed = (s.guarded .lint (.error e : Except Failure Lint.Report)).printed := by
  rw [lint, h]
  exact List.append_nil _

end Panel

lemma perform_sync {i : Invocation} {c : Sync.Command} (h : i.command.sync? = some c) (loggers : Log.Registry) :
    s.perform loggers i = s.sync loggers i.command fun k => c.run k i.path := by
  obtain ⟨command, path, level, jobs⟩ := i
  cases command <;> cases h <;> rfl

lemma perform_lint {i : Invocation} (h : i.command.sync? = none) (loggers : Log.Registry) :
    i.command = .lint ∧ s.perform loggers i = s.lint loggers i.path i.jobs := by
  obtain ⟨command, path, level, jobs⟩ := i
  cases command <;> cases h
  exact ⟨rfl, rfl⟩

lemma perform_zero_iff (hpool : s.Pooled) (loggers : Log.Registry) (i : Invocation) :
    (s.perform loggers i).exitCode = 0 ↔ s.Succeeds i := by
  rw [Succeeds]
  cases hc : i.command.sync? with
  | some c =>
    rw [perform_sync hc]
    exact exitCode_sync_iff loggers i.command c
  | none =>
    rw [(perform_lint hc loggers).2]
    exact exitCode_lint_iff hpool loggers i.jobs

lemma perform_panel (loggers : Log.Registry) {i : Invocation} {e : Failure} (h : (s.ending i).result = .error e) :
    ∃ heading body, Markup.render (Report.errorTitle (title i.command)).toList = .ok heading ∧
      Markup.render (Report.errorMarkup (Report.reportedForm e i.command.name)) = .ok body ∧
      (s.perform loggers i).printed =
        (s.ending i).printed ++ (s.ending i).terminal.continued (panel s.width heading [body]) := by
  rw [ending] at h ⊢
  cases hc : i.command.sync? with
  | some c =>
    obtain ⟨heading, body, hheading, hbody, hpanel⟩ := (guards s.width i.command).failure Sync.Outcome e
    refine ⟨heading, body, hheading, hbody, ?_⟩
    rcases hr : (s.act fun k => c.run k i.path).result s.session with ⟨f | o, after⟩
    · simp only [hc, hr] at h ⊢
      cases h
      rw [perform_sync hc, printed_sync loggers hr, printed_guarded hpanel]
    · simp only [hc, hr] at h
      cases h
  | none =>
    obtain ⟨heading, body, hheading, hbody, hpanel⟩ := (guards s.width i.command).failure Lint.Report e
    refine ⟨heading, body, hheading, hbody, ?_⟩
    obtain ⟨hlint, hperform⟩ := perform_lint hc loggers
    rw [hlint] at hpanel
    cases hr : (s.lintReport i.path i.jobs).value with
    | error f =>
      simp only [hc, hr] at h ⊢
      cases h
      rw [hperform, printed_lint loggers hr, printed_guarded hpanel]
      rfl
    | ok report =>
      simp only [hc, hr] at h
      cases h

lemma perform_zero_or_one (loggers : Log.Registry) (i : Invocation) :
    (s.perform loggers i).exitCode = 0 ∨ (s.perform loggers i).exitCode = 1 := by
  cases hc : i.command.sync? with
  | some c =>
    rw [perform_sync hc, exitCode_sync]
    exact exitCode_zero_or_one _
  | none =>
    rw [(perform_lint hc loggers).2, exitCode_lint]
    split
    · split
      · exact exitCode_zero_or_one _
      · exact .inr rfl
    · exact .inr rfl

lemma carryOut_of_setUp {i : Invocation} {loggers : Log.Registry} {records : List Log.Record}
    (h : Log.setUp .initial s.project ⟨none, some i.level, false⟩ = .ok (loggers, records)) :
    s.carryOut i = { s.perform loggers i with records := records ++ (s.perform loggers i).records } := by
  -- The function is opened before it has arguments. With them the kernel would set logging up.
  have hdef : @carryOut σ = @carryOut σ := rfl
  conv_rhs at hdef => delta carryOut
  have hcarry := congrFun (congrFun hdef s) i
  beta_reduce at hcarry
  rw [h] at hcarry
  exact hcarry

/-- The exit code of a run tells how it went, in whatever order its workers are done. -/
theorem run_tells {words : List String} {i : Invocation} (hpool : s.Pooled)
    (h : Invocation.ofArguments s.project words = .ok i) : ∃ f, s.run words = .ok f ∧ s.Tells i f := by
  obtain ⟨⟨loggers, records⟩, hlog⟩ := Log.setUp_packaged .initial s.project (some i.level)
  refine ⟨s.carryOut i, by rw [run, h]; rfl, ?_⟩
  rw [carryOut_of_setUp hlog]
  exact ⟨perform_zero_or_one loggers i, perform_zero_iff hpool loggers i, CommandLine.guards s.width i.command,
    fun e he => perform_panel loggers he⟩

def devConfig : Path := ⟨.relative, ["config", "dev.exs"]⟩

def devConfigText : String := "import Config\n"

def oneConfig : Surroundings Unit where
  project := ⟨[], [(["config"], .directory), (devConfig.names, .file (Text.encodeUtf8 devConfigText.toList))]⟩
  environment := []
  width := 80
  typed := ""
  transport s _ := (.unreachable "", s)
  state := ()

lemma clean_devConfig : Lint.Clean .default oneConfig.project devConfig := by
  have hplace : oneConfig.project.place devConfig = .ok devConfig.names := by decide +kernel
  refine ⟨devConfigText, Project.readText_eq hplace rfl (by decide), ?_⟩
  decide +kernel

lemma linted_devConfig : oneConfig.Linted devConfig := by
  have hfile : oneConfig.project.isFile devConfig = .ok true := by decide +kernel
  refine ⟨Settings.default, [devConfig], by decide +kernel, Sync.find_of_isFile hfile _, by simp, ?_⟩
  intro file hf
  rw [List.mem_singleton.1 hf]
  exact clean_devConfig

lemma pooled_oneConfig : oneConfig.Pooled := fun workers _ => (Lint.answers_iff workers _).2 rfl

theorem run_tells_of_clean : oneConfig.Pooled ∧ Invocation.ofArguments oneConfig.project ["lint", "config/dev.exs"] =
      .ok ⟨.lint, devConfig, defaultLevel, 1⟩ ∧
    ∃ f, oneConfig.run ["lint", "config/dev.exs"] = .ok f ∧ oneConfig.Tells ⟨.lint, devConfig, defaultLevel, 1⟩ f ∧
      f.exitCode = 0 := by
  have h : Invocation.ofArguments oneConfig.project ["lint", "config/dev.exs"] =
      .ok ⟨.lint, devConfig, defaultLevel, 1⟩ := by decide +kernel
  obtain ⟨f, hrun, htells⟩ := run_tells pooled_oneConfig h
  exact ⟨pooled_oneConfig, h, f, hrun, htells, htells.zero_iff.2 linted_devConfig⟩

end Surroundings

end ConfigKeeper.CommandLine
