import ConfigKeeper.Proofs.Lint.Workers

namespace ConfigKeeper.Lint

open Pool

variable {g : Registry} {t : Project} {file : Path} {files : List Path} {report : Report}

lemma value_lintFile (g : Registry) (t : Project) (file : Path) : (lintFile g t file).value =
    (t.readSource file).value.map fun text => (lintSource g text file.toString).value := by
  rw [lintFile, Logged.value_bind]
  cases (t.readSource file).value <;> rfl

def found (g : Registry) (t : Project) (file : Path) : List Diagnostic :=
  match (lintFile g t file).value with
  | .ok ds => ds
  | .error _ => []

def unread? (t : Project) (file : Path) : Option (Path × String) :=
  match t.readText file with
  | .ok _ => none
  | .error fault => some (file, (Problem.sourceRead file fault).message)

structure InOrder (g : Registry) (t : Project) (files : List Path) (report : Report) : Prop where
  diagnostics : report.diagnostics = files.flatMap (found g t)
  failedFiles : report.failedFiles = files.filterMap (unread? t)
  filesChecked : report.filesChecked + report.failedFiles.length = files.length
  rulesRun : report.rulesRun = g.rules.length

def fileResult (g : Registry) (t : Project) (file : Path) : FileResult :=
  match t.readText file with
  | .ok _ => .ok (found g t file)
  | .error fault => .error (Problem.sourceRead file fault).message

lemma lintTask_of_nul (h : file.HasNul) : lintTask g t file = .error (.file .nulInPath) := by
  rw [lintTask, value_lintOne, Project.value_readSource, Project.readText_eq_nul_iff.2 h]

lemma lintTask_of_not_nul (h : ¬ file.HasNul) : lintTask g t file = .ok (fileResult g t file) := by
  have hnul : t.readText file ≠ .error (.file .nulInPath) := mt Project.readText_eq_nul_iff.1 h
  rw [lintTask, value_lintOne, fileResult, found, value_lintFile, Project.value_readSource]
  rcases hread : t.readText file with ((⟨fault, path⟩ | _) | fault) | text
  · rfl
  · exact absurd hread hnul
  · rfl
  · rfl

lemma mapM_lintTask (h : ∀ file ∈ files, ¬ file.HasNul) :
    files.mapM (lintTask g t) = .ok (files.map (fileResult g t)) := by
  refine mapM_of_map ?_
  rw [List.map_map]
  exact List.map_congr_left fun file hfile => lintTask_of_not_nul (h file hfile)

lemma mapM_lintTask_of_nul (h : ∃ file ∈ files, file.HasNul) :
    files.mapM (lintTask g t) = .error (.file .nulInPath) := by
  induction files with
  | nil => simp at h
  | cons file files ih =>
    rw [List.mapM_cons]
    by_cases hfile : file.HasNul
    · rw [lintTask_of_nul hfile]
      rfl
    · rw [List.exists_mem_cons_iff, or_iff_right hfile] at h
      rw [lintTask_of_not_nul hfile, ih h]
      rfl

lemma value_lintEach (g : Registry) (t : Project) (files : List Path) :
    (lintEach g t files).value = (files.mapM (lintTask g t)).map files.zip := by
  induction files with
  | nil => rfl
  | cons file files ih =>
    rw [value_lintEach_cons, ih, List.mapM_cons, lintTask]
    cases (lintOne g t file).value with
    | error f => rfl
    | ok result =>
      simp only
      cases files.mapM (lintTask g t) <;> rfl

lemma value_lintPaths (g : Registry) (t : Project) (files : List Path) : (lintPaths g t files).value =
    (files.mapM (lintTask g t)).map fun results => Report.ofResults g (files.zip results) := by
  rw [lintPaths, Logged.value_bind, value_lintEach]
  cases files.mapM (lintTask g t) <;> rfl

theorem answers_iff (workers : ℕ) (answer : Except Failure Report) :
    Answers g t workers files answer ↔ answer = (lintPaths g t files).value := by
  have hstart := sound_start (lintTask g t) files
  constructor
  · rintro (_ | ⟨-, -, hreaches, hfinished⟩)
    · rfl
    · rw [outcome_of_finished (hstart.reaches hreaches) hfinished, value_lintPaths]
  · rintro rfl
    by_cases hserial : workers ≤ 1 ∨ files.length ≤ 1
    · exact .serial hserial
    · rw [not_or, Nat.not_le, Nat.not_le] at hserial
      obtain ⟨s, hreaches, hfinished⟩ := exists_finished hstart (Nat.zero_lt_of_lt hserial.1)
      have hanswer := Answers.pooled hserial.1 hserial.2 hreaches hfinished
      rwa [outcome_of_finished (hstart.reaches hreaches) hfinished, ← value_lintPaths] at hanswer

lemma counts_ofResults (g : Registry) (results : List (Path × FileResult)) :
    (Report.ofResults g results).filesChecked + (Report.ofResults g results).failedFiles.length = results.length := by
  induction results with
  | nil => rfl
  | cons x results ih =>
    obtain ⟨file, result⟩ := x
    rw [Report.ofResults] at ih ⊢
    cases result with
    | ok ds =>
      simp only [List.filter_cons, Except.isOk, Except.toBool, ↓reduceIte, List.filterMap_cons,
        List.length_cons] at ih ⊢
      omega
    | error reason =>
      simp only [List.filter_cons, Except.isOk, Except.toBool, Bool.false_eq_true, ↓reduceIte, List.filterMap_cons,
        List.length_cons] at ih ⊢
      omega

lemma found_of_unread {fault : ReadFault} (h : t.readText file = .error fault) : found g t file = [] := by
  rw [found, value_lintFile, Project.value_readSource, h]
  rcases fault with (_ | _) | _ <;> rfl

lemma inOrder_ofResults (g : Registry) (t : Project) (files : List Path) :
    InOrder g t files (Report.ofResults g (files.zip (files.map (fileResult g t)))) := by
  rw [← List.map_prod_left_eq_zip]
  refine ⟨?_, ?_, ?_, rfl⟩
  · rw [Report.ofResults, List.flatMap_map]
    refine List.flatMap_congr fun file _ => ?_
    rw [fileResult]
    cases hread : t.readText file with
    | ok text => rfl
    | error fault => exact (found_of_unread hread).symm
  · rw [Report.ofResults, List.filterMap_map]
    refine List.filterMap_congr fun file _ => ?_
    rw [Function.comp_apply, fileResult, unread?]
    cases t.readText file <;> rfl
  · rw [counts_ofResults, List.length_map]

lemma lintPaths_of_nul (h : ∃ file ∈ files, file.HasNul) :
    (lintPaths g t files).value = .error (.file .nulInPath) := by
  rw [value_lintPaths, mapM_lintTask_of_nul h]
  rfl

lemma lintPaths_of_not_nul (h : ∀ file ∈ files, ¬ file.HasNul) :
    ∃ report, (lintPaths g t files).value = .ok report ∧ InOrder g t files report := by
  refine ⟨_, ?_, inOrder_ofResults g t files⟩
  rw [value_lintPaths, mapM_lintTask h]
  rfl

lemma inOrder_of_returned (h : (lintPaths g t files).value = .ok report) :
    (∀ file ∈ files, ¬ file.HasNul) ∧ InOrder g t files report := by
  have hnul : ∀ file ∈ files, ¬ file.HasNul := by
    intro file hfile hn
    cases h.symm.trans (lintPaths_of_nul ⟨file, hfile, hn⟩)
  obtain ⟨own, hown, horder⟩ := lintPaths_of_not_nul (g := g) (t := t) hnul
  cases h.symm.trans hown
  exact ⟨hnul, horder⟩

lemma lintPaths_append {more : List Path} {first second : Report} (hfirst : (lintPaths g t files).value = .ok first)
    (hsecond : (lintPaths g t more).value = .ok second) :
    ∃ both, (lintPaths g t (files ++ more)).value = .ok both ∧
      both.diagnostics = first.diagnostics ++ second.diagnostics ∧
      both.failedFiles = first.failedFiles ++ second.failedFiles := by
  obtain ⟨hfiles, hfirst⟩ := inOrder_of_returned hfirst
  obtain ⟨hmore, hsecond⟩ := inOrder_of_returned hsecond
  obtain ⟨both, hboth, horder⟩ := lintPaths_of_not_nul (g := g) (t := t) (List.forall_mem_append.2 ⟨hfiles, hmore⟩)
  refine ⟨both, hboth, ?_, ?_⟩
  · rw [horder.diagnostics, hfirst.diagnostics, hsecond.diagnostics, List.flatMap_append]
  · rw [horder.failedFiles, hfirst.failedFiles, hsecond.failedFiles, List.filterMap_append]

/-- Whatever the number of workers and the order in which they are done, the answer is the same, and no run of
theirs goes on forever or gets stuck. It is a report on every file in order unless a path holds a NUL character,
and the report on two lists is those on each put together. -/
theorem lintPaths_in_order (g : Registry) (t : Project) (workers : ℕ) (files : List Path) :
    (∀ answer, Answers g t workers files answer ↔ answer = (lintPaths g t files).value) ∧
    (∀ s u : Pool Path Failure FileResult, Step (lintTask g t) workers s u → u.left < s.left) ∧
    (0 < workers → ∀ s, Reaches (lintTask g t) workers (start files) s →
      s.Finished ∨ ∃ u, Step (lintTask g t) workers s u) ∧
    ((∃ file ∈ files, file.HasNul) → (lintPaths g t files).value = .error (.file .nulInPath)) ∧
    ((∀ file ∈ files, ¬ file.HasNul) → ∃ report, (lintPaths g t files).value = .ok report ∧ InOrder g t files report) ∧
    ∀ more first second, (lintPaths g t files).value = .ok first → (lintPaths g t more).value = .ok second →
      ∃ both, (lintPaths g t (files ++ more)).value = .ok both ∧
        both.diagnostics = first.diagnostics ++ second.diagnostics ∧
        both.failedFiles = first.failedFiles ++ second.failedFiles := by
  refine ⟨answers_iff workers, fun s u => left_step, fun hw s hs => ?_, lintPaths_of_nul, lintPaths_of_not_nul,
    fun more first second => lintPaths_append⟩
  -- a pool that can be reached is sound, and a sound one that is not finished has a move
  by_cases hf : s.Finished
  · exact .inl hf
  · exact .inr (exists_step ((sound_start (lintTask g t) files).reaches hs) hw hf)

def mixedFiles : List Path := [⟨.relative, ["a\x00b.exs"]⟩, ⟨.relative, ["config", "dev.exs"]⟩]

def mixedTree : Project where
  workingDirectory := []
  entries := [(["config"], .directory),
    (["config", "dev.exs"], .file (Text.encodeUtf8 "config :a, b: System.get_env(\"X\")\n".toList))]

theorem unreported_of_nul : Answers Registry.default mixedTree 2 mixedFiles (.error (.file .nulInPath)) ∧
    ∀ report, ¬ Answers Registry.default mixedTree 2 mixedFiles (.ok report) := by
  have hnul : ∃ file ∈ mixedFiles, file.HasNul :=
    ⟨_, List.mem_cons_self, _, List.mem_cons_self, by decide⟩
  refine ⟨(answers_iff 2 _).2 (lintPaths_of_nul hnul).symm, fun report h => ?_⟩
  cases ((answers_iff 2 _).1 h).trans (lintPaths_of_nul hnul)

end ConfigKeeper.Lint
