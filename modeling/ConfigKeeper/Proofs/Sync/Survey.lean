import ConfigKeeper.Proofs.Diff.Script
import ConfigKeeper.Proofs.Sync.Lookup

/-!
What every run does first: it finds the secrets, takes the token and compares the local files with
the store. Each entry that drifted comes from a group that the run knows.
-/

namespace ConfigKeeper.Sync

open Sync.Action

variable {σ π : Type} {k : Context σ π} {root : Path} {token : String}

structure Survey where
  extraction : Extraction
  token : String
  drifted : List Drift

def survey (k : Context σ π) (root : Path) : Action σ π Survey := do
  let x ← discover k root
  let token ← Sync.token k
  let drifted ← compare k token root x.secrets
  pure ⟨x, token, drifted⟩

lemma push_eq_survey_bind (k : Context σ π) (root : Path) :
    push k root = (survey k root >>= fun v => do
      let pushed ← pushDrifted k v.token root v.drifted
      pure { Outcome.ofExtraction v.extraction with drifted := v.drifted, pushed := pushed }) := by
  simp only [push, survey, bind_assoc, pure_bind]

lemma diff_eq_survey_bind (k : Context σ π) (root : Path) :
    diff k root = (survey k root >>= fun v => do
      if v.drifted.isEmpty then sayPlain k "The config files are up to date with the Vault Bunker."
      renderEach k root v.drifted
      pure { Outcome.ofExtraction v.extraction with drifted := v.drifted }) := by
  simp only [diff, survey, bind_assoc, pure_bind]

section Keeps

variable {P E : Session σ π → Prop} (hp : Quiet P E)

include hp

lemma printAll_keeps {α : Type} (line : α → List Char) (xs : List α) : Keeps P E (printAll k line xs) := by
  induction xs with
  | nil => exact Keeps.pure ()
  | cons x xs ih => exact Keeps.bind (hp.printMarkup _ _) fun _ => ih

lemma discover_keeps : Keeps P E (discover k root) := by
  refine Keeps.bind Keeps.project fun t => Keeps.bind (hp.logged _) fun files => ?_
  refine Keeps.ite (hp.fail _) (Keeps.bind (hp.logged _) fun x => ?_)
  exact Keeps.bind (printAll_keeps hp _ _) fun _ => Keeps.bind (printAll_keeps hp _ _) fun _ => Keeps.pure x

lemma resolve_keeps {i : SecretInfo} (hg : Keeps P E (Action.group k token i.groupPath)) :
    Keeps P E (resolve k token i) := by
  refine Keeps.bind hg fun g => ?_
  split
  · exact Keeps.pure _
  · exact hp.fail _

lemma drift?_keeps {i : SecretInfo} (hg : Keeps P E (Action.group k token i.groupPath)) :
    Keeps P E (drift? k token root i) := by
  rw [drift?]
  apply Keeps.bind Keeps.project
  intro t
  apply Keeps.bind (hp.lift _)
  intro there
  apply Keeps.ite
  · apply Keeps.bind (hp.logged _)
    intro text
    exact Keeps.bind (resolve_keeps hp hg) fun value => Keeps.pure _
  · apply Keeps.bind (hp.printMarkup _ _)
    intro _
    exact Keeps.pure none

omit hp in
lemma driftOf_keeps {is : List SecretInfo} (hd : ∀ i ∈ is, Keeps P E (drift? k token root i)) :
    Keeps P E (driftOf k token root is) := by
  induction is with
  | nil => exact Keeps.pure []
  | cons i is ih =>
    obtain ⟨hi, his⟩ := List.forall_mem_cons.1 hd
    exact Keeps.bind hi fun found => Keeps.bind (ih his) fun rest => Keeps.pure _

lemma compare_keeps {is : List SecretInfo} (hd : ∀ i ∈ is, Keeps P E (drift? k token root i)) :
    Keeps P E (compare k token root is) :=
  Keeps.bind (driftOf_keeps hd) fun found => Keeps.bind (hp.note _) fun _ => Keeps.pure found

end Keeps

lemma survey_keeps {P E : Session σ π → Prop} (hp : Quiet P E)
    (hg : ∀ token name, Keeps P E (Action.group k token name)) : Keeps P E (survey k root) :=
  Keeps.bind (discover_keeps hp) fun _ => Keeps.bind (hp.lift _) fun token =>
    Keeps.bind (compare_keeps hp fun i _ => drift?_keeps hp (hg token i.groupPath)) fun _ => Keeps.pure _

lemma ok_of_token {s s' : Session σ π} (h : (Sync.token k).result s = (.ok token, s')) :
    requireToken k.settings.token = .ok token ∧ s' = s := by
  rw [Sync.token, result_lift, Prod.mk.injEq] at h
  obtain ⟨ht, rfl⟩ := h
  cases hr : requireToken k.settings.token with
  | error p => simp [hr, Except.mapError] at ht
  | ok own => simpa [hr, Except.mapError] using ht

lemma ok_of_survey {s s' : Session σ π} {v : Survey} (h : (survey k root).result s = (.ok v, s')) :
    ∃ s₁, (discover k root).result s = (.ok v.extraction, s₁) ∧ requireToken k.settings.token = .ok v.token ∧
      (compare k v.token root v.extraction.secrets).result s₁ = (.ok v.drifted, s') := by
  obtain ⟨x, s₁, hx, h₁⟩ := ok_of_bind h
  obtain ⟨token, s₂, ht, h₂⟩ := ok_of_bind h₁
  obtain ⟨drifted, s₃, hd, h₃⟩ := ok_of_bind h₂
  obtain ⟨htoken, rfl⟩ := ok_of_token ht
  rw [result_pure, Prod.mk.injEq, Except.ok.injEq] at h₃
  obtain ⟨rfl, rfl⟩ := h₃
  exact ⟨_, hx, htoken, hd⟩

lemma survey_invariant {P E : Session σ π → Prop} (hp : Quiet P E) {s s' : Session σ π} {v : Survey}
    (hg : ∀ name, Keeps P E (Action.group k v.token name)) (hs : P s)
    (h : (survey k root).result s = (.ok v, s')) : P s' := by
  obtain ⟨s₁, hx, -, hc⟩ := ok_of_survey h
  exact (compare_keeps hp fun i _ => drift?_keeps hp (hg i.groupPath)).ok ((discover_keeps hp).ok hs hx) hc

def Backed (c : Cache) (d : Drift) : Prop :=
  ∃ g, c.answer? d.secret.groupPath = some (.ok g) ∧ g.lookup d.secret.name = some d.remote

lemma resolve_of_group {i : SecretInfo} {s s' : Session σ π} {r : Except Failure Group}
    (h : (Action.group k token i.groupPath).result s = (r, s')) :
    (resolve k token i).result s = (r.bind fun g => (g.lookup i.name).elim
      (.error (.problem (.invalidSecretPath i.annotatedFile.toString i.raw))) .ok, s') := by
  rcases r with f | g
  · exact result_bind_error h _
  · rw [resolve, result_bind_ok h]
    simp only [Except.bind]
    cases g.lookup i.name <;> rfl

lemma ok_of_resolve {i : SecretInfo} {s s' : Session σ π} {value : String}
    (h : (resolve k token i).result s = (.ok value, s')) :
    ∃ g, (Action.group k token i.groupPath).result s = (.ok g, s') ∧ g.lookup i.name = some value := by
  obtain ⟨g, s₁, hg, h⟩ := ok_of_bind h
  cases hl : g.lookup i.name with
  | none =>
    rw [hl, result_fail] at h
    cases h
  | some own =>
    rw [hl, result_pure, Prod.mk.injEq] at h
    obtain ⟨hv, rfl⟩ := h
    cases hv
    exact ⟨g, hg, hl⟩

lemma ok_of_drift? {i : SecretInfo} {s s' : Session σ π} {d : Drift}
    (h : (drift? k token root i).result s = (.ok (some d), s')) :
    d.secret = i ∧ (s.project.readSource i.localPath).value = .ok d.localText ∧
      d.remote ≠ d.localText ∧ ∃ s₁, (resolve k token i).result s₁ = (.ok d.remote, s') := by
  obtain ⟨t, s₁, ht, h⟩ := ok_of_bind h
  rw [result_project, Prod.mk.injEq] at ht
  obtain ⟨ht, rfl⟩ := ht
  cases ht
  obtain ⟨there, s₁, -, h⟩ := ok_of_bind h
  cases there with
  | false =>
    obtain ⟨_, _, -, h⟩ := ok_of_bind h
    cases h
  | true =>
    obtain ⟨text, s₂, hr, h⟩ := ok_of_bind h
    obtain ⟨value, s₃, hv, h⟩ := ok_of_bind h
    rw [result_logged, Prod.mk.injEq] at hr
    rw [result_pure, Prod.mk.injEq, Except.ok.injEq] at h
    obtain ⟨hd, rfl⟩ := h
    by_cases hne : Diff.hasDiff value.toList text.toList = true
    · rw [if_pos hne] at hd
      cases hd
      refine ⟨rfl, hr.1, ?_, s₂, hv⟩
      exact fun he => (Diff.hasDiff_iff _ _).1 hne (congrArg String.toList he)
    · rw [if_neg hne] at hd
      cases hd

lemma backed_of_drift? {i : SecretInfo} {s s' : Session σ π} {d : Drift}
    (h : (drift? k token root i).result s = (.ok (some d), s')) : Backed s'.cache d := by
  obtain ⟨rfl, -, -, s₁, hv⟩ := ok_of_drift? h
  obtain ⟨g, hg, hl⟩ := ok_of_resolve hv
  exact ⟨g, answer?_of_group_ok hg, hl⟩

lemma Backed.driftOf {d : Drift} {is : List SecretInfo} {s s' : Session σ π} {ds : List Drift}
    (hb : Backed s.cache d) (h : (driftOf k token root is).result s = (.ok ds, s')) : Backed s'.cache d := by
  obtain ⟨g, hg, hl⟩ := hb
  exact ⟨g, (driftOf_keeps fun _ _ => drift?_keeps (quiet_known _ _) (Keeps.group_known _ _)).ok hg h, hl⟩

lemma backed_of_driftOf {is : List SecretInfo} {s s' : Session σ π} {ds : List Drift}
    (h : (driftOf k token root is).result s = (.ok ds, s')) :
    ∀ d ∈ ds, d.secret ∈ is ∧ d.remote ≠ d.localText ∧ Backed s'.cache d := by
  induction is generalizing s ds with
  | nil =>
    rw [Sync.driftOf, result_pure, Prod.mk.injEq, Except.ok.injEq] at h
    rintro d hd
    rw [← h.1] at hd
    cases hd
  | cons i is ih =>
    obtain ⟨found, s₁, hf, h⟩ := ok_of_bind h
    obtain ⟨rest, s₂, hr, h⟩ := ok_of_bind h
    rw [result_pure, Prod.mk.injEq, Except.ok.injEq] at h
    obtain ⟨rfl, rfl⟩ := h
    rintro d hd
    rcases List.mem_append.1 hd with hd | hd
    · rw [Option.mem_toList] at hd
      subst hd
      obtain ⟨rfl, -, hne, -⟩ := ok_of_drift? hf
      exact ⟨List.mem_cons_self, hne, (backed_of_drift? hf).driftOf hr⟩
    · obtain ⟨hi, hne, hb⟩ := ih hr d hd
      exact ⟨List.mem_cons_of_mem i hi, hne, hb⟩

lemma ok_of_compare {is : List SecretInfo} {s s' : Session σ π} {ds : List Drift}
    (h : (compare k token root is).result s = (.ok ds, s')) :
    ∃ s₁ records, (driftOf k token root is).result s = (.ok ds, s₁) ∧ s' = { s₁ with records := records } := by
  obtain ⟨found, s₁, hf, h⟩ := ok_of_bind h
  obtain ⟨_, s₂, hn, h⟩ := ok_of_bind h
  obtain ⟨records, hr⟩ := result_note
    (Logged.info "sync" (toString found.length ++ " of " ++ toString is.length ++ " secret(s) drifted")) s₁
  rw [hr, Prod.mk.injEq] at hn
  obtain ⟨-, rfl⟩ := hn
  cases h
  exact ⟨s₁, records, hf, rfl⟩

lemma compare_of_driftOf {is : List SecretInfo} {s s' : Session σ π} {ds : List Drift}
    (h : (driftOf k token root is).result s = (.ok ds, s')) :
    ∃ records, (compare k token root is).result s = (.ok ds, { s' with records := records }) := by
  obtain ⟨records, hr⟩ := result_note
    (Logged.info "sync" (toString ds.length ++ " of " ++ toString is.length ++ " secret(s) drifted")) s'
  exact ⟨records, by rw [compare, result_bind_ok h, result_bind_ok hr, result_pure]⟩

theorem backed_of_survey {s s' : Session σ π} {v : Survey} (h : (survey k root).result s = (.ok v, s')) :
    ∀ d ∈ v.drifted, d.secret ∈ v.extraction.secrets ∧ d.remote ≠ d.localText ∧ Backed s'.cache d := by
  obtain ⟨s₁, -, -, hc⟩ := ok_of_survey h
  obtain ⟨s₂, records, hd, rfl⟩ := ok_of_compare hc
  have hbacked := backed_of_driftOf hd
  exact hbacked

section Small

def Prompter.agreeing : Prompter Unit where
  confirm _ _ := (⟨.ok true, []⟩, ())
  select _ _ _ := (⟨.ok (some 0), []⟩, ())

def Context.plain (store : SecretStore σ) : Context σ Unit :=
  ⟨store, .agreeing, { Settings.default with token := some "tok" }, 80⟩

def manifestPath : Path := ⟨.relative, [".wukong.toml"]⟩

def manifestOf (source destination : String) : String :=
  "[[secrets]]\nprovider = \"bunker\"\nkind = \"generic\"\nsrc = \"" ++ source ++ "\"\ndst = \"" ++ destination ++
    "\"\n"

def projectOf (source destination : String) (entries : List (Place × Entry)) : Project :=
  ⟨[], ([".wukong.toml"], .file (utf8 (manifestOf source destination))) :: entries⟩

end Small

end ConfigKeeper.Sync
