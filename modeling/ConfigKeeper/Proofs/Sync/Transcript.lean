import ConfigKeeper.Proofs.Json.Members
import ConfigKeeper.Proofs.Store.Transcript
import ConfigKeeper.Proofs.Sync.Survey

namespace ConfigKeeper

def Cache.fetches (token : String) (c : Cache) : List Exchange :=
  c.answers.reverse.map fun x => .fetch token x.1 (x.2.mapError Failure.problem)

namespace Sync

open Sync.Action

variable {σ π : Type} {k : Context σ π} {root : Path}

def Context.transcribed (k : Context σ π) : Context (σ × List Exchange) π :=
  ⟨k.store.transcribed, k.prompter, k.settings, k.width⟩

lemma asked_transcript (token name : String) (s : Session (σ × List Exchange) π) :
    (asked k.transcribed token name s).store.2 =
      s.store.2 ++ [.fetch token name (k.store.fetch s.store.1 token name).1.value] := rfl

def Untouched (t : Project) (s : Session (σ × List Exchange) π) : Prop :=
  s.project = t ∧ updates s.store.2 = []

lemma quiet_untouched (t : Project) : Quiet (Untouched (σ := σ) (π := π) t) (Untouched t) :=
  ⟨fun _ _ _ hs => hs, fun _ hs => hs⟩

lemma group_untouched {token : String} (t : Project) (name : String) :
    Keeps (Untouched t) (Untouched t) (Action.group k.transcribed token name) := by
  apply Keeps.group_always (quiet_untouched t)
  rintro s ⟨ht, hu⟩ -
  refine ⟨ht, ?_⟩
  rw [asked_transcript, updates_append, hu, updates_fetch, List.append_nil]

lemma survey_untouched (t : Project) :
    Keeps (Untouched t) (Untouched t) (survey k.transcribed root) :=
  survey_keeps (quiet_untouched t) fun _ name => group_untouched t name

structure Mirrors (token : String) (s : Session (σ × List Exchange) π) : Prop where
  transcript : s.store.2 = s.cache.fetches token
  distinct : Json.Distinct s.cache.answers

lemma quiet_mirrors (token : String) :
    Quiet (Mirrors (σ := σ) (π := π) token) fun _ => True :=
  ⟨fun _ _ _ hs => ⟨hs.transcript, hs.distinct⟩, fun _ _ => trivial⟩

lemma fetches_remember (token name : String) (c : Cache) (a : Except Problem Group) :
    (c.remember name a).fetches token = c.fetches token ++ [.fetch token name (a.mapError Failure.problem)] := by
  simp [Cache.fetches, Cache.remember]

lemma distinct_remember {c : Cache} {name : String} (h : Json.Distinct c.answers)
    (hn : c.answer? name = none) (a : Except Problem Group) : Json.Distinct (c.remember name a).answers := by
  refine List.nodup_cons.2 ⟨?_, h⟩
  rw [← Association.lookup_isSome_iff_mem]
  rintro ⟨b, hb⟩
  rw [Cache.answer?] at hn
  rw [hn] at hb
  cases hb

lemma group_mirrors (token name : String) :
    Keeps (Mirrors token) (fun _ => True) (Action.group k.transcribed token name) := by
  apply Keeps.group (quiet_mirrors token)
  · intro s g hs hn hv
    have hc : (asked k.transcribed token name s).cache = s.cache.remember name (.ok g) := by
      rw [asked, hv]
      rfl
    have hf : (k.store.fetch s.store.1 token name).1.value = .ok g := hv
    constructor
    · rw [asked_transcript, hc, fetches_remember, hs.transcript, hf]
      rfl
    · rw [hc]
      exact distinct_remember hs.distinct hn _
  · intros
    trivial

lemma survey_mirrors {s s' : Session (σ × List Exchange) π} {v : Survey} (hs : s.store.2 = [])
    (hc : s.cache = .empty) (h : (survey k.transcribed root).result s = (.ok v, s')) :
    Mirrors v.token s' := by
  refine survey_invariant (quiet_mirrors v.token) (group_mirrors v.token) ⟨?_, ?_⟩ h
  · rw [hs, hc]
    rfl
  · rw [hc]
    exact List.nodup_nil

lemma Mirrors.fetch_mem {token name : String} {s : Session (σ × List Exchange) π} {a : Except Problem Group}
    (h : Mirrors token s) (ha : s.cache.answer? name = some a) :
    .fetch token name (a.mapError Failure.problem) ∈ s.store.2 := by
  rw [h.transcript]
  refine List.mem_map.2 ⟨(name, a), ?_, rfl⟩
  rw [List.mem_reverse]
  exact Association.mem_of_lookup ha

end Sync

end ConfigKeeper
