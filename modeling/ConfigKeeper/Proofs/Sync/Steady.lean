import ConfigKeeper.Proofs.Sync.Survey

namespace ConfigKeeper.Sync

open Sync.Action

variable {σ π : Type} {k : Context σ π} {root : Path} {token : String}
variable {content : String → Except Failure Group} {here : σ → Prop}

structure Context.Steady (k : Context σ π) (content : String → Except Failure Group) (here : σ → Prop) :
    Prop where
  answer : ∀ {token s} name, requireToken k.settings.token = .ok token → here s →
    (k.store.fetch s token name).1.value = content name
  stays : ∀ {token s} name, requireToken k.settings.token = .ok token → here s →
    here (k.store.fetch s token name).2

structure Informed (content : String → Except Failure Group) (here : σ → Prop) (t : Project)
    (s : Session σ π) : Prop where
  project : s.project = t
  store : here s.store
  known : ∀ name a, s.cache.answer? name = some a → a.mapError Failure.problem = content name

def value? (content : String → Except Failure Group) (i : SecretInfo) : Option String :=
  match content i.groupPath with
  | .ok g => g.lookup i.name
  | .error _ => none

lemma quiet_informed (t : Project) : Quiet (Informed (π := π) content here t) (Informed content here t) :=
  ⟨fun _ _ _ hs => ⟨hs.project, hs.store, hs.known⟩, fun _ hs => hs⟩

lemma informed_start (t : Project) {s₀ : σ} (p₀ : π) (h : here s₀) :
    Informed content here t (Session.start t s₀ p₀) := by
  refine ⟨rfl, h, fun name a ha => ?_⟩
  cases ha

variable (hk : k.Steady content here) (ht : requireToken k.settings.token = .ok token)

include hk ht

lemma group_informed (t : Project) (name : String) :
    Keeps (Informed content here t) (Informed content here t) (Action.group k token name) := by
  apply Keeps.group_always (quiet_informed t)
  intro s hs hn
  refine ⟨hs.project, hk.stays name ht hs.store, fun key a ha => ?_⟩
  have hv := hk.answer name ht hs.store
  simp only [asked, hv] at ha
  rcases Cache.answer?_of_note ha with hold | ⟨rfl, hnew⟩
  · exact hs.known key a hold
  · exact hnew.symm

lemma group_of_informed {t : Project} {s : Session σ π} (hs : Informed content here t s) (name : String) :
    ((Action.group k token name).result s).1 = content name := by
  cases ha : s.cache.answer? name with
  | some a =>
    rw [group_of_known ha]
    exact hs.known name a ha
  | none =>
    obtain ⟨records, hr⟩ := group_of_unknown k token ha
    rw [hr]
    exact hk.answer name ht hs.store

lemma resolve_of_informed {t : Project} {s : Session σ π} (hs : Informed content here t s) {i : SecretInfo}
    {v : String} (hv : value? content i = some v) : ∃ s', (resolve k token i).result s = (.ok v, s') := by
  have hg := group_of_informed hk ht hs i.groupPath
  rcases h : (Action.group k token i.groupPath).result s with ⟨e | g, s'⟩
  · rw [h] at hg
    rw [value?, ← hg] at hv
    cases hv
  · rw [h] at hg
    rw [value?, ← hg] at hv
    refine ⟨s', ?_⟩
    rw [resolve, result_bind_ok h]
    simp only at hv
    rw [hv, result_pure]

lemma value?_of_resolve {t : Project} {s s' : Session σ π} (hs : Informed content here t s) {i : SecretInfo}
    {v : String} (h : (resolve k token i).result s = (.ok v, s')) : value? content i = some v := by
  obtain ⟨g, hg, hl⟩ := ok_of_resolve h
  have hc := group_of_informed hk ht hs i.groupPath
  rw [hg] at hc
  rw [value?, ← hc, ← hl]

lemma resolve_informed (t : Project) (i : SecretInfo) :
    Keeps (Informed content here t) (Informed content here t) (resolve k token i) :=
  resolve_keeps (quiet_informed t) (group_informed hk ht t i.groupPath)

end ConfigKeeper.Sync
