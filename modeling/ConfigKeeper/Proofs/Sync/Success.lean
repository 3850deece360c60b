import ConfigKeeper.Proofs.Sync.Once
import ConfigKeeper.Proofs.Sync.Verdict

/-!
When a run that came to its end is a success: every file that was found could be read, and a pull
wrote the file of every secret. A secret that fails otherwise ends the run.
-/

namespace ConfigKeeper.Sync

open Sync.Action

variable {σ π : Type} {k : Context σ π} {root : Path} {token : String} {s s' : Session σ π}

lemma paths_of_pullEach {is : List SecretInfo} {results : List (Path × Option String)}
    (h : (pullEach k token root is).result s = (.ok results, s')) :
    results.map Prod.fst = is.map SecretInfo.localPath := by
  induction is generalizing s results with
  | nil =>
    cases h
    rfl
  | cons i is ih =>
    obtain ⟨reason, s₁, -, h⟩ := ok_of_bind h
    obtain ⟨rest, s₂, hrest, h⟩ := ok_of_bind h
    cases h
    rw [List.map_cons, List.map_cons, ih hrest]

lemma written_eq_iff (results : List (Path × Option String)) :
    (results.filterMap fun (path, reason) => if reason.isNone then some path else none) = results.map Prod.fst ↔
      ∀ x ∈ results, x.2 = none := by
  rw [List.filterMap_eq_map_iff_forall_eq_some]
  refine forall₂_congr fun x _ => ?_
  simp

lemma failures_eq_nil_iff (results : List (Path × Option String)) :
    (results.filterMap fun (path, reason) => reason.map fun r => (path, r)) = [] ↔ ∀ x ∈ results, x.2 = none := by
  rw [List.filterMap_eq_nil_iff]
  refine forall₂_congr fun x _ => ?_
  simp

lemma isSuccess_ofExtraction_iff (x : Extraction) : (Outcome.ofExtraction x).isSuccess = true ↔ x.failures = [] := by
  simp [Outcome.isSuccess, Outcome.ofExtraction]

lemma isSuccess_of_pull {o : Outcome} (h : (pull k root).result s = (.ok o, s')) :
    ∃ x s₁, (discover k root).result s = (.ok x, s₁) ∧
      (o.isSuccess = true ↔ x.failures = [] ∧ o.written = x.secrets.map SecretInfo.localPath) := by
  obtain ⟨x, s₁, hx, h⟩ := ok_of_bind h
  obtain ⟨token, s₂, -, h⟩ := ok_of_bind h
  obtain ⟨results, s₃, hresults, h⟩ := ok_of_bind h
  cases h
  refine ⟨x, s₁, hx, ?_⟩
  rw [← paths_of_pullEach hresults, written_eq_iff, ← failures_eq_nil_iff, ← isSuccess_ofExtraction_iff,
    Outcome.isSuccess, Outcome.isSuccess, List.isEmpty_iff, List.isEmpty_iff, List.append_eq_nil_iff]

lemma isSuccess_of_diff {o : Outcome} (h : (diff k root).result s = (.ok o, s')) :
    ∃ x s₁, (discover k root).result s = (.ok x, s₁) ∧ (o.isSuccess = true ↔ x.failures = []) := by
  rw [diff_eq_present] at h
  obtain ⟨v, s₂, hv, h⟩ := ok_of_bind h
  obtain ⟨rfl, -⟩ := ok_of_present h
  obtain ⟨s₁, hx, -, -⟩ := ok_of_survey hv
  exact ⟨v.extraction, s₁, hx, isSuccess_ofExtraction_iff v.extraction⟩

lemma isSuccess_of_push {o : Outcome} (h : (push k root).result s = (.ok o, s')) :
    ∃ x s₁, (discover k root).result s = (.ok x, s₁) ∧ (o.isSuccess = true ↔ x.failures = []) := by
  rw [push_eq_survey_bind] at h
  obtain ⟨v, s₂, hv, h⟩ := ok_of_bind h
  obtain ⟨pushed, s₃, -, h⟩ := ok_of_bind h
  cases h
  obtain ⟨s₁, hx, -, -⟩ := ok_of_survey hv
  exact ⟨v.extraction, s₁, hx, isSuccess_ofExtraction_iff v.extraction⟩

theorem isSuccess_of_run {c : Command} {o : Outcome} (h : (c.run k root).result s = (.ok o, s')) :
    ∃ x s₁, (discover k root).result s = (.ok x, s₁) ∧ (o.isSuccess = true ↔
      x.failures = [] ∧ (c = .pull → o.written = x.secrets.map SecretInfo.localPath)) := by
  cases c with
  | pull => simpa using isSuccess_of_pull h
  | diff => simpa using isSuccess_of_diff h
  | push => simpa using isSuccess_of_push h

end ConfigKeeper.Sync
