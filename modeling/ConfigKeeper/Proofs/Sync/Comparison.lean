import ConfigKeeper.Proofs.Console.Escape
import ConfigKeeper.Proofs.Sync.Steady

/-!
What a comparison gives on a store that nobody changes. It ends well if each local file is absent or
can be read and has its value in the store, and then each entry depends on its own file and value alone.
-/

namespace ConfigKeeper.Sync

open Sync.Action Console

variable {σ π : Type} {k : Context σ π} {root : Path} {token : String}
variable {content : String → Except Failure Group} {here : σ → Prop} {t : Project} {i : SecretInfo}

/-- The local file of a secret is absent, or it can be read and the secret has a value. -/
inductive Comparable (content : String → Except Failure Group) (t : Project) (i : SecretInfo) : Prop
  | absent : t.isPresent i.localPath = .ok false → Comparable content t i
  | there {text value} : t.isPresent i.localPath = .ok true → (t.readSource i.localPath).value = .ok text →
      value? content i = some value → Comparable content t i

def driftOf? (content : String → Except Failure Group) (t : Project) (i : SecretInfo) : Option Drift :=
  match t.isPresent i.localPath, (t.readSource i.localPath).value, value? content i with
  | .ok true, .ok text, some value => if value = text then none else some ⟨i, value, text⟩
  | _, _, _ => none

lemma driftOf?_of_absent (h : t.isPresent i.localPath = .ok false) : driftOf? content t i = none := by
  rw [driftOf?, h]

lemma driftOf?_of_there {text value : String} (h : t.isPresent i.localPath = .ok true)
    (hr : (t.readSource i.localPath).value = .ok text) (hv : value? content i = some value) :
    driftOf? content t i = if value = text then none else some ⟨i, value, text⟩ := by
  rw [driftOf?, h, hr, hv]

lemma driftOf?_eq_some_iff {d : Drift} : driftOf? content t i = some d ↔ d.secret = i ∧
    t.isPresent i.localPath = .ok true ∧ (t.readSource i.localPath).value = .ok d.localText ∧
    value? content i = some d.remote ∧ d.remote ≠ d.localText := by
  rw [driftOf?]
  constructor
  · intro h
    split at h
    · next hthere hread hvalue =>
      split at h
      · cases h
      · next hne =>
        cases h
        exact ⟨rfl, hthere, hread, hvalue, hne⟩
    · cases h
  · rintro ⟨rfl, hthere, hread, hvalue, hne⟩
    rw [hthere, hread, hvalue]
    exact if_neg hne

lemma notFoundLine_shown (root path : Path) : ∃ shown, Markup.render (notFoundLine root path) = .ok shown := by
  have hshown : ∃ shown, Markup.render (['\''] ++ Markup.escape _ ++ "' not found.".toList) = .ok shown :=
    Markup.render_escape_between (by decide) (by decide) (by decide) (by decide) (displayed root path).toList
  exact hshown

lemma hasDiff_iff_ne (value text : String) : Diff.hasDiff value.toList text.toList = true ↔ value ≠ text := by
  rw [Diff.hasDiff_iff, ne_eq, ne_eq, String.toList_inj]

section Presence

variable {s : Session σ π}

lemma drift?_of_refused {e : FileError} (h : s.project.isPresent i.localPath = .error e) :
    (drift? k token root i).result s = (.error (.file e), s) := by
  rw [drift?, result_bind_ok (result_project s), h]
  rfl

lemma drift?_of_absent (h : s.project.isPresent i.localPath = .ok false) :
    ∃ printed, (drift? k token root i).result s = (.ok none, { s with printed := printed }) := by
  have hthere : (Action.lift ((s.project.isPresent i.localPath).mapError Failure.file)).result s =
      (.ok false, s) := by
    rw [result_lift, h]
    rfl
  obtain ⟨shown, hshown⟩ := notFoundLine_shown root i.localPath
  obtain ⟨printed, hp⟩ := printMarkup_ok hshown k.width s
  refine ⟨printed, ?_⟩
  rw [drift?, result_bind_ok (result_project s), result_bind_ok hthere, if_neg Bool.false_ne_true,
    result_bind_ok hp, result_pure]

lemma drift?_of_present (h : s.project.isPresent i.localPath = .ok true) :
    (drift? k token root i).result s = (do
      let text ← Action.logged (s.project.readSource i.localPath)
      let value ← resolve k token i
      pure (if value = text then none else some ⟨i, value, text⟩) : Action σ π (Option Drift)).result s := by
  have hthere : (Action.lift ((s.project.isPresent i.localPath).mapError Failure.file)).result s =
      (.ok true, s) := by
    rw [result_lift, h]
    rfl
  rw [drift?, result_bind_ok (result_project s), result_bind_ok hthere, if_pos rfl]
  simp only [hasDiff_iff_ne, ne_eq, ite_not]

end Presence

variable (hk : k.Steady content here) (ht : requireToken k.settings.token = .ok token)

include hk ht

lemma drift?_comparable {s : Session σ π} (hs : Informed content here t s) (hc : Comparable content t i) :
    ∃ s', (drift? k token root i).result s = (.ok (driftOf? content t i), s') ∧ Informed content here t s' := by
  have hproject : s.project = t := hs.project
  subst hproject
  cases hc with
  | absent h =>
    obtain ⟨printed, hp⟩ : ∃ printed, (drift? k token root i).result s = (.ok none, { s with printed := printed }) :=
      drift?_of_absent h
    refine ⟨{ s with printed := printed }, ?_, (quiet_informed _).silent s printed s.records hs⟩
    rw [hp, driftOf?_of_absent h]
  | @there text value h hr hv =>
    have htext := result_logged (s.project.readSource i.localPath) s
    rw [hr] at htext
    have h₁ := ((quiet_informed s.project).logged (s.project.readSource i.localPath)).ok hs htext
    obtain ⟨s₂, hvalue⟩ := resolve_of_informed hk ht h₁ hv
    refine ⟨s₂, ?_, (resolve_informed hk ht s.project i).ok h₁ hvalue⟩
    rw [drift?_of_present h, result_bind_ok htext, result_bind_ok hvalue, result_pure, driftOf?_of_there h hr hv]

lemma driftOf_comparable {is : List SecretInfo} (hc : ∀ i ∈ is, Comparable content t i) {s : Session σ π}
    (hs : Informed content here t s) :
    ∃ s', (driftOf k token root is).result s = (.ok (is.filterMap (driftOf? content t)), s') ∧
      Informed content here t s' := by
  induction is generalizing s with
  | nil => exact ⟨s, rfl, hs⟩
  | cons i is ih =>
    obtain ⟨hi, his⟩ := List.forall_mem_cons.1 hc
    obtain ⟨s₁, h₁, hs₁⟩ := drift?_comparable hk ht hs hi
    obtain ⟨s₂, h₂, hs₂⟩ := ih his hs₁
    refine ⟨s₂, ?_, hs₂⟩
    rw [driftOf, result_bind_ok h₁, result_bind_ok h₂, result_pure, List.filterMap_cons]
    cases driftOf? content t i <;> rfl

theorem survey_comparable {s s₁ : Session σ π} (hs : Informed content here t s) {x : Extraction}
    (hx : (discover k root).result s = (.ok x, s₁)) (hc : ∀ i ∈ x.secrets, Comparable content t i) :
    ∃ s', (survey k root).result s = (.ok ⟨x, token, x.secrets.filterMap (driftOf? content t)⟩, s') ∧
      Informed content here t s' := by
  have h₁ := (discover_keeps (quiet_informed t)).ok hs hx
  have htoken : (Sync.token k).result s₁ = (.ok token, s₁) := by
    rw [Sync.token, result_lift, ht]
    rfl
  obtain ⟨s₂, hd, h₂⟩ := driftOf_comparable hk ht hc h₁
  obtain ⟨records, hcompare⟩ := compare_of_driftOf hd
  refine ⟨{ s₂ with records := records }, ?_, (quiet_informed t).silent s₂ s₂.printed records h₂⟩
  rw [survey, result_bind_ok hx, result_bind_ok htoken, result_bind_ok hcompare, result_pure]

end ConfigKeeper.Sync
