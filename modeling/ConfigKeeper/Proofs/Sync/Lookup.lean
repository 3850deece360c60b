import ConfigKeeper.Proofs.Sync.Action

/-!
What a run learns of the store. A group that is known is not asked for again, and what is known
stays known.
-/

namespace ConfigKeeper

namespace Cache

lemma answer?_remember_of_ne {name key : String} (h : key ≠ name) (c : Cache) (a : Except Problem Group) :
    (c.remember name a).answer? key = c.answer? key := by
  have hb : (key == name) = false := by simpa using h
  simp [answer?, remember, List.lookup_cons, hb]

lemma note_cases (c : Cache) (name : String) (a : Except Failure Group) :
    c.note name a = c ∨
      ∃ b : Except Problem Group, a = b.mapError Failure.problem ∧ c.note name a = c.remember name b := by
  rcases a with (p | _ | _ | _ | _ | _ | _) | g
  · rw [note]
    split
    · exact .inr ⟨.error p, rfl, rfl⟩
    · exact .inl rfl
  all_goals first | exact .inl rfl | exact .inr ⟨.ok g, rfl, rfl⟩

lemma answer?_of_note {c : Cache} {name key : String} {a : Except Failure Group} {b : Except Problem Group}
    (h : (c.note name a).answer? key = some b) :
    c.answer? key = some b ∨ key = name ∧ a = b.mapError Failure.problem := by
  rcases note_cases c name a with hc | ⟨own, ha, hc⟩
  · rw [hc] at h
    exact .inl h
  · rw [hc] at h
    by_cases hk : key = name
    · rw [hk, answer?_remember, Option.some.injEq] at h
      rw [h] at ha
      exact .inr ⟨hk, ha⟩
    · rw [answer?_remember_of_ne hk] at h
      exact .inl h

lemma answer?_note {c : Cache} {key : String} {a : Except Problem Group} (h : c.answer? key = some a)
    {name : String} (hn : c.answer? name = none) (b : Except Failure Group) :
    (c.note name b).answer? key = some a := by
  rcases note_cases c name b with hc | ⟨b, -, hc⟩
  · rwa [hc]
  · have hk : key ≠ name := by
      rintro rfl
      simp [h] at hn
    rw [hc, answer?_remember_of_ne hk, h]

lemma answer?_note_ok (c : Cache) (name : String) (g : Group) :
    (c.note name (.ok g)).answer? name = some (.ok g) := answer?_remember c name _

end Cache

namespace Sync

namespace Action

variable {σ π α : Type} {k : Context σ π} {token name : String} {s s' : Session σ π}

lemma group_of_known {a : Except Problem Group} (h : s.cache.answer? name = some a) :
    (group k token name).result s = (a.mapError Failure.problem, s) := by
  have hg : s.cache.group k.store token name s.store =
      ⟨pure (a.mapError Failure.problem), s.cache, s.store⟩ := by rw [Cache.group, h]
  have hr : (pure (a.mapError Failure.problem) : Logged (Except Failure Group)).records = [] := rfl
  change ((s.cache.group k.store token name s.store).answer.value, _) = _
  rw [hg, hr, List.append_nil]
  rfl

lemma group_of_unknown (k : Context σ π) (token : String) (h : s.cache.answer? name = none) :
    ∃ records, (group k token name).result s =
      ((k.store.fetch s.store token name).1.value,
        { s with
          cache := s.cache.note name (k.store.fetch s.store token name).1.value
          store := (k.store.fetch s.store token name).2
          records := records }) := by
  refine ⟨s.records ++ (s.cache.group k.store token name s.store).answer.records, ?_⟩
  change ((s.cache.group k.store token name s.store).answer.value, _) = _
  rw [Cache.group, h]

lemma answer?_of_group_ok {g : Group} (h : (group k token name).result s = (.ok g, s')) :
    s'.cache.answer? name = some (.ok g) := by
  cases ha : s.cache.answer? name with
  | some a =>
    rw [group_of_known ha, Prod.mk.injEq] at h
    obtain ⟨hg, rfl⟩ := h
    rcases a with p | g'
    · cases hg
    · cases hg
      exact ha
  | none =>
    obtain ⟨records, hr⟩ := group_of_unknown k token ha
    rw [hr, Prod.mk.injEq] at h
    obtain ⟨hg, rfl⟩ := h
    rw [hg]
    exact Cache.answer?_note_ok _ _ _

def asked (k : Context σ π) (token name : String) (s : Session σ π) : Session σ π :=
  { s with
    cache := s.cache.note name (k.store.fetch s.store token name).1.value
    store := (k.store.fetch s.store token name).2 }

lemma Keeps.group {P E : Session σ π → Prop} (hp : Quiet P E)
    (hok : ∀ s g, P s → s.cache.answer? name = none →
      (k.store.fetch s.store token name).1.value = .ok g → P (asked k token name s))
    (herror : ∀ s e, P s → s.cache.answer? name = none →
      (k.store.fetch s.store token name).1.value = .error e → E (asked k token name s)) :
    Keeps P E (group k token name) := by
  constructor
  · intro s s' g hs h
    cases ha : s.cache.answer? name with
    | some a =>
      rw [group_of_known ha, Prod.mk.injEq] at h
      exact h.2 ▸ hs
    | none =>
      obtain ⟨records, hr⟩ := group_of_unknown k token ha
      rw [hr, Prod.mk.injEq] at h
      obtain ⟨hv, rfl⟩ := h
      exact hok { s with records := records } g (hp.silent s s.printed records hs) ha hv
  · intro s s' e hs h
    cases ha : s.cache.answer? name with
    | some a =>
      rw [group_of_known ha, Prod.mk.injEq] at h
      exact h.2 ▸ hp.grants s hs
    | none =>
      obtain ⟨records, hr⟩ := group_of_unknown k token ha
      rw [hr, Prod.mk.injEq] at h
      obtain ⟨hv, rfl⟩ := h
      exact herror { s with records := records } e (hp.silent s s.printed records hs) ha hv

lemma Keeps.group_always {P : Session σ π → Prop} (hp : Quiet P P)
    (hf : ∀ s, P s → s.cache.answer? name = none → P (asked k token name s)) :
    Keeps P P (Action.group k token name) :=
  Keeps.group hp (fun s _ hs hn _ => hf s hs hn) (fun s _ hs hn _ => hf s hs hn)

lemma quiet_known (key : String) (a : Except Problem Group) :
    Quiet (fun s : Session σ π => s.cache.answer? key = some a) (fun s => s.cache.answer? key = some a) :=
  ⟨fun _ _ _ hs => hs, fun _ hs => hs⟩

lemma Keeps.group_known (key : String) (a : Except Problem Group) :
    Keeps (fun s => s.cache.answer? key = some a) (fun s => s.cache.answer? key = some a)
      (Action.group k token name) :=
  Keeps.group_always (quiet_known key a) fun _ hs hn => Cache.answer?_note hs hn _

end Action

end Sync

end ConfigKeeper
