import ConfigKeeper.Proofs.Json.Members
import ConfigKeeper.Proofs.Store.Transcript

/-!
Exchanges that happen one after the other at one store. On a store that merges what it is sent, a
stretch of fetches changes nothing and is answered with what the store holds.
-/

namespace ConfigKeeper

namespace SecretStore

variable {σ : Type} {store : SecretStore σ} {held : σ → String → Option Group}

def Answers (store : SecretStore σ) (s : σ) : Exchange → σ → Prop
  | .fetch token group answer, s' =>
    (store.fetch s token group).1.value = answer ∧ (store.fetch s token group).2 = s'
  | .update token group data answer, s' =>
    (store.update s token group data).1.value = answer ∧ (store.update s token group data).2 = s'

inductive Replays (store : SecretStore σ) : σ → List Exchange → σ → Prop
  | nil (s : σ) : Replays store s [] s
  | cons {s s₁ s' : σ} {e : Exchange} {es : List Exchange} :
      store.Answers s e s₁ → Replays store s₁ es s' → Replays store s (e :: es) s'

structure Merges (store : SecretStore σ) (held : σ → String → Option Group) : Prop where
  fetch : ∀ s token name g, (store.fetch s token name).1.value = .ok g → held s name = some g
  stays : ∀ s token name, held (store.fetch s token name).2 = held s
  update : ∀ s token name data, (store.update s token name data).1.value = .ok () →
    held (store.update s token name data).2 name = some (((held s name).getD []).merge data)

lemma Replays.of_append {s s' : σ} {xs ys : List Exchange} (h : Replays store s (xs ++ ys) s') :
    ∃ s₁, Replays store s xs s₁ ∧ Replays store s₁ ys s' := by
  induction xs generalizing s with
  | nil => exact ⟨s, .nil s, h⟩
  | cons x xs ih =>
    cases h with
    | cons ha h =>
      obtain ⟨s₁, hx, hy⟩ := ih h
      exact ⟨s₁, .cons ha hx, hy⟩

lemma Replays.fetches (hm : store.Merges held) {s s' : σ} {es : List Exchange} (h : Replays store s es s')
    (hes : ∀ e ∈ es, e.isUpdate = false) :
    held s' = held s ∧ ∀ token name g, .fetch token name (.ok g) ∈ es → held s name = some g := by
  induction h with
  | nil s => exact ⟨rfl, fun _ _ _ hg => by cases hg⟩
  | @cons s s₁ s' e es ha h ih =>
    obtain ⟨hheld, hall⟩ := ih fun x hx => hes x (List.mem_cons_of_mem e hx)
    cases e with
    | update token name data answer => exact absurd (hes _ List.mem_cons_self) (by simp [Exchange.isUpdate])
    | fetch token name answer =>
      obtain ⟨hanswer, rfl⟩ := ha
      rw [hm.stays] at hheld hall
      refine ⟨hheld, fun token' name' g hg => ?_⟩
      rcases List.mem_cons.1 hg with he | hg
      · cases he
        exact hm.fetch s token name g hanswer
      · exact hall token' name' g hg

lemma Replays.merged (hm : store.Merges held) {s s' : σ} {token name : String} {data : Group}
    {es : List Exchange} (h : Replays store s (.update token name data (.ok ()) :: es) s') :
    ∃ s₁, held s₁ name = some (((held s name).getD []).merge data) ∧ Replays store s₁ es s' := by
  cases h with
  | cons ha h =>
    obtain ⟨hanswer, rfl⟩ := ha
    exact ⟨_, hm.update s token name data hanswer, h⟩

end SecretStore

namespace Memory

lemma lookup_of_fetch {m : Memory} {name : String} {g : Group} (h : m.fetch name = .ok g) :
    m.groups.lookup name = some g := by
  rw [Memory.fetch] at h
  cases hf : m.failures.lookup name with
  | some f =>
    rw [hf] at h
    cases h
  | none =>
    rw [hf] at h
    cases hg : m.groups.lookup name with
    | none =>
      rw [hg] at h
      cases h
    | some own =>
      rw [hg] at h
      exact congrArg some (Except.ok.inj h)

lemma lookup_of_update {m next : Memory} {name : String} {data : Group} (h : m.update name data = .ok next) :
    next.groups.lookup name = some (((m.groups.lookup name).getD []).merge data) := by
  rw [Memory.update] at h
  cases hf : m.failures.lookup name with
  | some f =>
    rw [hf] at h
    cases h
  | none =>
    rw [hf] at h
    rw [← Except.ok.inj h]
    exact Json.lookup_put m.groups name _

theorem merges : store.Merges fun m name => m.groups.lookup name where
  fetch := fun _ _ _ _ h => lookup_of_fetch h
  stays := fun _ _ _ => rfl
  update := by
    intro m token name data h
    cases hu : m.update name data with
    | error f =>
      simp only [store, hu] at h
      cases h
    | ok next =>
      simp only [store, hu]
      exact lookup_of_update hu

end Memory

end ConfigKeeper
