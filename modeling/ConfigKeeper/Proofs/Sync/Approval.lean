import ConfigKeeper.Proofs.Sync.Survey

/-!
What it takes for a run to send something: an entry drifted, it was picked, it was shown and it was
confirmed. Without that a push leaves the project and the store as its survey left them.
-/

namespace ConfigKeeper.Sync

open Sync.Action Console

variable {σ π : Type} {k : Context σ π} {root : Path}

/-- The entry a run goes on with: the only one, or the one at the index that was selected. -/
inductive Picks (k : Context σ π) (root : Path) (s : Session σ π) :
    List Drift → Drift → Session σ π → Prop
  | only {d s'} : (sayPlain k onlyOne).result s = (.ok (), s') → Picks k root s [d] d s'
  | listed {ds d s'} {n : Nat} : ds.length ≠ 1 →
      (Action.select k selectQuestion (ds.map (option root))).result s = (.ok (some (n : Int)), s') →
      ds[n]? = some d → Picks k root s ds d s'

structure Approval where
  survey : Survey
  entry : Drift

/-- From `s` the entry is picked, shown and confirmed, and the run is then in `s'`. -/
def Approves (k : Context σ π) (root : Path) (s : Session σ π) (a : Approval) (s' : Session σ π) : Prop :=
  ∃ s₁ s₂ s₃, (survey k root).result s = (.ok a.survey, s₁) ∧ Picks k root s₁ a.survey.drifted a.entry s₂ ∧
    (render k root a.entry).result s₂ = (.ok (), s₃) ∧
    (Action.confirm k confirmQuestion).result s₃ = (.ok true, s')

def Outcome.ofSurvey (v : Survey) (pushed : Option SecretInfo) : Outcome :=
  { Outcome.ofExtraction v.extraction with drifted := v.drifted, pushed := pushed }

/-- What a run reports as sent. A run that fails reports nothing. -/
def reported? : Except Failure Outcome → Option SecretInfo
  | .ok o => o.pushed
  | .error _ => none

def Session.world (s : Session σ π) : Project × σ × Cache := (s.project, s.store, s.cache)

def Unmoved (s₀ s : Session σ π) : Prop := s.world = s₀.world

namespace Unmoved

variable {s s' : Session σ π}

lemma project (h : Unmoved s s') : s'.project = s.project := congrArg (fun w => w.1) h

lemma store (h : Unmoved s s') : s'.store = s.store := congrArg (fun w => w.2.1) h

lemma cache (h : Unmoved s s') : s'.cache = s.cache := congrArg (fun w => w.2.2) h

end Unmoved

lemma quiet_unmoved (s₀ : Session σ π) : Quiet (Unmoved s₀) (Unmoved s₀) :=
  ⟨fun _ _ _ hs => hs, fun _ hs => hs⟩

lemma confirm_keeps (s₀ : Session σ π) (message : String) :
    Keeps (Unmoved s₀) (Unmoved s₀) (Action.confirm k message) := Keeps.of_always fun _ hs => hs

lemma select_keeps (s₀ : Session σ π) (message : String) (options : List String) :
    Keeps (Unmoved s₀) (Unmoved s₀) (Action.select k message options) := Keeps.of_always fun _ hs => hs

lemma sayPlain_keeps (s₀ : Session σ π) (text : String) :
    Keeps (Unmoved s₀) (Unmoved s₀) (sayPlain k text) := (quiet_unmoved s₀).printMarkup _ _

lemma render_keeps (s₀ : Session σ π) (d : Drift) :
    Keeps (Unmoved s₀) (Unmoved s₀) (render k root d) := (quiet_unmoved s₀).print _

lemma render_ok (k : Context σ π) (root : Path) (d : Drift) (s : Session σ π) :
    ∃ printed, (render k root d).result s = (.ok (), { s with printed := printed }) := ⟨_, rfl⟩

lemma choose_of_length_ne_one (k : Context σ π) (root : Path) {ds : List Drift} (h : ds.length ≠ 1) :
    choose k root ds = (do
      let index ← Action.select k selectQuestion (ds.map (option root))
      pure (chosen ds index)) := by
  rw [choose]
  rintro d rfl
  exact h rfl

lemma choose_keeps (s₀ : Session σ π) (ds : List Drift) :
    Keeps (Unmoved s₀) (Unmoved s₀) (choose k root ds) := by
  by_cases hl : ds.length = 1
  · obtain ⟨d, rfl⟩ := List.length_eq_one_iff.1 hl
    exact Keeps.bind (sayPlain_keeps s₀ _) fun _ => Keeps.pure _
  · rw [choose_of_length_ne_one k root hl]
    exact Keeps.bind (select_keeps s₀ _ _) fun _ => Keeps.pure _

lemma chosen_eq_some_iff {ds : List Drift} {index : Option Int} {d : Drift} :
    chosen ds index = some d ↔ ∃ n : Nat, index = some (n : Int) ∧ ds[n]? = some d := by
  rcases index with _ | z
  · simp [chosen]
  · rw [chosen]
    constructor
    · intro h
      split at h
      · next hz => exact ⟨z.toNat, by rw [Int.toNat_of_nonneg hz], h⟩
      · cases h
    · rintro ⟨n, hn, hd⟩
      obtain rfl : z = n := Option.some.inj hn
      rw [if_pos (Int.natCast_nonneg n), Int.toNat_natCast, hd]

lemma Picks.choose {s s' : Session σ π} {ds : List Drift} {d : Drift} (h : Picks k root s ds d s') :
    (choose k root ds).result s = (.ok (some d), s') := by
  cases h with
  | only hs =>
    rw [Sync.choose, result_bind_ok hs]
    rfl
  | listed hl hs hd =>
    rw [choose_of_length_ne_one k root hl, result_bind_ok hs, result_pure,
      chosen_eq_some_iff.2 ⟨_, rfl, hd⟩]

lemma Picks.mem {s s' : Session σ π} {ds : List Drift} {d : Drift} (h : Picks k root s ds d s') : d ∈ ds := by
  cases h with
  | only _ => exact List.mem_singleton.2 rfl
  | listed _ _ hd => exact List.mem_of_getElem? hd

lemma picks_of_choose {s s' : Session σ π} {ds : List Drift} {d : Drift}
    (h : (choose k root ds).result s = (.ok (some d), s')) : Picks k root s ds d s' := by
  by_cases hl : ds.length = 1
  · obtain ⟨e, rfl⟩ := List.length_eq_one_iff.1 hl
    obtain ⟨_, s₁, hs, h⟩ := ok_of_bind h
    cases h
    exact .only hs
  · rw [choose_of_length_ne_one k root hl] at h
    obtain ⟨index, s₁, hs, h⟩ := ok_of_bind h
    rw [result_pure, Prod.mk.injEq, Except.ok.injEq] at h
    obtain ⟨hd, rfl⟩ := h
    obtain ⟨n, rfl, hn⟩ := chosen_eq_some_iff.1 hd
    exact .listed hl hs hn

lemma Approves.unmoved {s s' : Session σ π} {a : Approval} (h : Approves k root s a s') :
    ∃ s₁, (survey k root).result s = (.ok a.survey, s₁) ∧ Unmoved s₁ s' := by
  obtain ⟨s₁, s₂, s₃, hv, hp, hr, hc⟩ := h
  have h₂ : Unmoved s₁ s₂ := (choose_keeps s₁ _).ok rfl hp.choose
  have h₃ : Unmoved s₁ s₃ := (render_keeps s₁ _).ok h₂ hr
  exact ⟨s₁, hv, (confirm_keeps s₁ _).ok h₃ hc⟩

lemma Approves.token {s s' : Session σ π} {a : Approval} (h : Approves k root s a s') :
    requireToken k.settings.token = .ok a.survey.token := by
  obtain ⟨_, hv, -⟩ := h.unmoved
  obtain ⟨_, -, ht, -⟩ := ok_of_survey hv
  exact ht

lemma push_of_approves {s s' : Session σ π} {a : Approval} (h : Approves k root s a s') :
    (push k root).result s = (do
      send k a.survey.token root a.entry
      pure (Outcome.ofSurvey a.survey (some a.entry.secret))).result s' := by
  obtain ⟨s₁, s₂, s₃, hv, hp, hr, hc⟩ := h
  have hne : a.survey.drifted.isEmpty = false := List.isEmpty_eq_false_iff.2 (List.ne_nil_of_mem hp.mem)
  rw [push_eq_survey_bind, result_bind_ok hv, pushDrifted, hne]
  simp only [Bool.false_eq_true, if_false, bind_assoc]
  rw [result_bind_ok hp.choose]
  simp only [pushChosen, bind_assoc]
  rw [result_bind_ok hr, result_bind_ok hc]
  simp only [if_true, bind_assoc, pure_bind]
  rfl

def Spares (s₀ : Session σ π) (r : Except Failure (Option SecretInfo) × Session σ π) : Prop :=
  Unmoved s₀ r.2 ∧ ∀ i, r.1 ≠ .ok (some i)

lemma Spares.of_keeps {α : Type} {s₀ s : Session σ π} {a : Action σ π α}
    (ha : Keeps (Unmoved s₀) (Unmoved s₀) a) (hs : Unmoved s₀ s) :
    Spares s₀ ((a >>= fun _ => pure none).result s) := by
  rcases h : a.result s with ⟨e | x, s'⟩
  · rw [result_bind_error h]
    exact ⟨ha.error hs h, fun _ hi => by cases hi⟩
  · rw [result_bind_ok h]
    exact ⟨ha.ok hs h, fun _ hi => by cases hi⟩

lemma pushChosen_spares {s₀ s s₁ : Session σ π} {d : Drift} (token : String) (hs : Unmoved s₀ s)
    (hr : (render k root d).result s = (.ok (), s₁))
    (hc : ∀ s', (Action.confirm k confirmQuestion).result s₁ ≠ (.ok true, s')) :
    Spares s₀ ((pushChosen k token root d).result s) := by
  have h₁ : Unmoved s₀ s₁ := (render_keeps s₀ d).ok hs hr
  rw [pushChosen, result_bind_ok hr]
  rcases h : (Action.confirm k confirmQuestion).result s₁ with ⟨e | confirmed, s₂⟩
  · rw [result_bind_error h]
    exact ⟨(confirm_keeps s₀ _).error h₁ h, fun _ hi => by cases hi⟩
  · cases confirmed with
    | true => exact absurd h (hc s₂)
    | false =>
      rw [result_bind_ok h]
      exact Spares.of_keeps (sayPlain_keeps s₀ _) ((confirm_keeps s₀ _).ok h₁ h)

lemma pushDrifted_spares {s₀ s : Session σ π} {ds : List Drift} (token : String) (hs : Unmoved s₀ s)
    (hp : ∀ d s₁ s₂ s₃, Picks k root s ds d s₁ → (render k root d).result s₁ = (.ok (), s₂) →
      (Action.confirm k confirmQuestion).result s₂ ≠ (.ok true, s₃)) :
    Spares s₀ ((pushDrifted k token root ds).result s) := by
  rw [pushDrifted]
  by_cases he : ds.isEmpty = true
  · rw [if_pos he]
    exact Spares.of_keeps (sayPlain_keeps s₀ _) hs
  · rw [if_neg he]
    rcases h : (choose k root ds).result s with ⟨e | picked, s₁⟩
    · rw [result_bind_error h]
      exact ⟨(choose_keeps s₀ ds).error hs h, fun _ hi => by cases hi⟩
    · have h₁ : Unmoved s₀ s₁ := (choose_keeps s₀ ds).ok hs h
      rw [result_bind_ok h]
      cases picked with
      | none => exact Spares.of_keeps (sayPlain_keeps s₀ _) h₁
      | some d =>
        obtain ⟨printed, hr⟩ := render_ok k root d s₁
        exact pushChosen_spares token h₁ hr fun s₃ => hp d s₁ _ s₃ (picks_of_choose h) hr

lemma push_of_not_approves {s : Session σ π} (h : ∀ a s', ¬ Approves k root s a s') :
    Unmoved ((survey k root).result s).2 ((push k root).result s).2 ∧
      reported? ((push k root).result s).1 = none := by
  rw [push_eq_survey_bind]
  rcases hv : (survey k root).result s with ⟨e | v, s₁⟩
  · rw [result_bind_error hv]
    exact ⟨rfl, rfl⟩
  · have hd : Spares s₁ ((pushDrifted k v.token root v.drifted).result s₁) :=
      pushDrifted_spares v.token rfl fun d s₂ s₃ s₄ hp hr hc => h ⟨v, d⟩ s₄ ⟨s₁, s₂, s₃, hv, hp, hr, hc⟩
    rw [result_bind_ok hv]
    rcases hr : (pushDrifted k v.token root v.drifted).result s₁ with ⟨e | pushed, s₂⟩
    · rw [hr] at hd
      rw [result_bind_error hr]
      exact ⟨hd.1, rfl⟩
    · rw [hr] at hd
      rw [result_bind_ok hr]
      refine ⟨hd.1, ?_⟩
      cases pushed with
      | none => rfl
      | some i => exact absurd rfl (hd.2 i)

lemma approves_of_reported {s : Session σ π} {i : SecretInfo}
    (h : reported? ((push k root).result s).1 = some i) :
    ∃ a s', Approves k root s a s' ∧ a.entry.secret = i := by
  by_cases ha : ∃ a s', Approves k root s a s'
  · obtain ⟨a, s', ha⟩ := ha
    refine ⟨a, s', ha, ?_⟩
    rw [push_of_approves ha] at h
    rcases hs : (send k a.survey.token root a.entry).result s' with ⟨e | x, s₂⟩
    · rw [result_bind_error hs] at h
      cases h
    · rw [result_bind_ok hs] at h
      exact Option.some.inj h
  · rw [(push_of_not_approves fun a s' h' => ha ⟨a, s', h'⟩).2] at h
    cases h

end ConfigKeeper.Sync
