import ConfigKeeper.Proofs.Store.Replay

namespace ConfigKeeper

namespace SecretStore

variable {σ : Type} {store : SecretStore σ} {content : σ → String → Except Failure Group}

structure Maps (store : SecretStore σ) (content : σ → String → Except Failure Group) : Prop where
  fetch : ∀ s token name, (store.fetch s token name).1.value = content s name
  stays : ∀ s token name, content (store.fetch s token name).2 = content s
  accepts : ∀ {s name g} token data, content s name = .ok g → (store.update s token name data).1.value = .ok ()
  merges : ∀ {s name g} token data, content s name = .ok g →
    content (store.update s token name data).2 name = .ok (g.merge data)
  others : ∀ {s name g key} token data, content s name = .ok g → key ≠ name →
    content (store.update s token name data).2 key = content s key

lemma Maps.transcribed (h : store.Maps content) : store.transcribed.Maps fun s => content s.1 where
  fetch s token name := h.fetch s.1 token name
  stays s token name := h.stays s.1 token name
  accepts token data hg := h.accepts token data hg
  merges token data hg := h.merges token data hg
  others token data hg hne := h.others token data hg hne

end SecretStore

namespace Memory

lemma failures_of_fetch {m : Memory} {name : String} {g : Group} (h : m.fetch name = .ok g) :
    m.failures.lookup name = none := by
  rw [Memory.fetch] at h
  cases hf : m.failures.lookup name with
  | some f =>
    rw [hf] at h
    cases h
  | none => rfl

lemma update_of_fetch {m : Memory} {name : String} {g : Group} (h : m.fetch name = .ok g) (data : Group) :
    m.update name data = .ok (m.setGroup name (some (g.merge data))) := by
  rw [Memory.update, failures_of_fetch h, lookup_of_fetch h]
  rfl

theorem maps : store.Maps Memory.fetch where
  fetch _ _ _ := rfl
  stays _ _ _ := rfl
  accepts := by
    intro m name g token data h
    simp only [store, update_of_fetch h]
    rfl
  merges := by
    intro m name g token data h
    simp only [store, update_of_fetch h]
    exact fetch_setGroup m name _ (failures_of_fetch h)
  others := by
    intro m name g key token data h hne
    simp only [store, update_of_fetch h, Memory.fetch, setGroup, Json.lookup_put_of_ne hne]

end Memory

end ConfigKeeper
