import ConfigKeeper.Proofs.Secret.Reading
import ConfigKeeper.Report.LintView

/-!
A lint run finds nothing and misses nothing exactly if each of its files can be read and no rule that
applies to a file finds anything in it.
-/

namespace ConfigKeeper.Lint

variable {g : Registry} {t : Project} {file : Path}

lemma mapM_of_map {α β ε : Type} {f : α → Except ε β} {xs : List α} {ys : List β} (h : xs.map f = ys.map .ok) :
    xs.mapM f = .ok ys := by
  induction xs generalizing ys with
  | nil =>
    rw [List.map_nil, eq_comm, List.map_eq_nil_iff] at h
    rw [h]
    rfl
  | cons x xs ih =>
    cases ys with
    | nil => cases h
    | cons y ys =>
      rw [List.map_cons, List.map_cons, List.cons.injEq] at h
      rw [List.mapM_cons, h.1, ih h.2]
      rfl

def Clean (g : Registry) (t : Project) (file : Path) : Prop :=
  ∃ text, t.readText file = .ok text ∧ ∀ r ∈ g.rules, r.appliesTo file.toString = true →
    r.evaluate (Elixir.Source.parse text) file.toString = []

lemma value_lintSource (g : Registry) (text file : String) : (lintSource g text file).value =
    (g.rulesFor file).flatMap fun r => r.evaluate (Elixir.Source.parse text) file := by
  rw [lintSource]
  split
  · next h =>
    rw [h]
    rfl
  · rfl

lemma value_lintSource_eq_nil_iff {text file : String} : (lintSource g text file).value = [] ↔
    ∀ r ∈ g.rules, r.appliesTo file = true → r.evaluate (Elixir.Source.parse text) file = [] := by
  rw [value_lintSource, List.flatMap_eq_nil_iff]
  simp only [Registry.rulesFor, List.mem_filter, and_imp]

lemma value_lintOne (g : Registry) (t : Project) (file : Path) : (lintOne g t file).value =
    match (t.readSource file).value with
    | .ok text => .ok (.ok (lintSource g text file.toString).value)
    | .error (.problem p) => .ok (.error p.message)
    | .error f => .error f := by
  rw [lintOne, lintFile, Logged.value_bind, Logged.value_bind]
  cases (t.readSource file).value with
  | ok text => rfl
  | error f => cases f <;> rfl

lemma value_lintOne_clean_iff : (lintOne g t file).value = .ok (.ok []) ↔ Clean g t file := by
  rw [value_lintOne, Clean]
  simp only [← Project.value_readSource_eq_ok_iff]
  cases (t.readSource file).value with
  | ok text => simp [value_lintSource_eq_nil_iff]
  | error f => cases f <;> simp

lemma value_lintEach_cons (g : Registry) (t : Project) (file : Path) (files : List Path) :
    (lintEach g t (file :: files)).value = match (lintOne g t file).value with
      | .error f => .error f
      | .ok result => (lintEach g t files).value.map fun rest => (file, result) :: rest := by
  rw [lintEach, Logged.value_bind]
  cases (lintOne g t file).value with
  | error f => rfl
  | ok result =>
    simp only [Logged.value_bind]
    cases (lintEach g t files).value <;> rfl

def Spotless (results : List (Path × FileResult)) : Prop := ∀ x ∈ results, x.2 = .ok []

lemma spotless_cons {result : FileResult} {rest : List (Path × FileResult)} :
    Spotless ((file, result) :: rest) ↔ result = .ok [] ∧ Spotless rest := List.forall_mem_cons

lemma isSpotless_ofResults (g : Registry) (results : List (Path × FileResult)) :
    Report.isSpotless (.ofResults g results) = true ↔ Spotless results := by
  rw [Report.isSpotless, Report.isClean, Bool.and_eq_true, List.isEmpty_iff, List.isEmpty_iff, Report.ofResults,
    List.flatMap_eq_nil_iff, List.filterMap_eq_nil_iff]
  constructor
  · rintro ⟨hfound, hfailed⟩ ⟨file, result⟩ hx
    cases result with
    | ok found => exact congrArg Except.ok (hfound _ hx)
    | error reason => exact absurd (hfailed _ hx) (by simp)
  · intro h
    refine ⟨fun x hx => ?_, fun x hx => ?_⟩ <;> simp only [h x hx]

lemma lintEach_spotless_iff (files : List Path) :
    (∃ results, (lintEach g t files).value = .ok results ∧ Spotless results) ↔ ∀ file ∈ files, Clean g t file := by
  induction files with
  | nil => exact iff_of_true ⟨[], rfl, by simp [Spotless]⟩ (by simp)
  | cons file files ih =>
    rw [List.forall_mem_cons, ← ih, ← value_lintOne_clean_iff, value_lintEach_cons]
    cases (lintOne g t file).value with
    | error f => simp
    | ok result =>
      cases (lintEach g t files).value with
      | error f => simp [Except.map]
      | ok rest => simp [Except.map, spotless_cons]

theorem lintPaths_spotless_iff (g : Registry) (t : Project) (files : List Path) :
    (∃ report, (lintPaths g t files).value = .ok report ∧ Report.isSpotless report = true) ↔
      ∀ file ∈ files, Clean g t file := by
  rw [← lintEach_spotless_iff, lintPaths, Logged.value_bind]
  cases (lintEach g t files).value with
  | error f => simp [Logged.value_pure]
  | ok results => simp [Logged.value_pure, isSpotless_ofResults]

end ConfigKeeper.Lint
