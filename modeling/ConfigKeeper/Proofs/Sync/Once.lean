import ConfigKeeper.Proofs.Sync.Alongside
import ConfigKeeper.Proofs.Sync.Transcript

/-!
A run asks for a group once. What it was answered is then known, so the run goes as if every answer
had been known from the start: a table that is filled on demand does what a full one does.
-/

namespace ConfigKeeper

variable {σ : Type}

def Exchange.group : Exchange → String
  | .fetch _ name _ => name
  | .update _ name _ _ => name

def fetched (transcript : List Exchange) : List Exchange := transcript.filter fun e => !e.isUpdate

lemma fetched_append (xs ys : List Exchange) : fetched (xs ++ ys) = fetched xs ++ fetched ys :=
  List.filter_append ..

def SecretStore.Responds (store : SecretStore σ) (kind : Problem → Bool) : Prop :=
  ∀ s token name, ∃ a : Except Problem Group,
    (store.fetch s token name).1.value = a.mapError Failure.problem ∧ ∀ p, a = .error p → kind p = true

namespace SecretStore.Responds

variable {store : SecretStore σ}

lemma mono {kind wide : Problem → Bool} (h : store.Responds kind) (hw : ∀ p, kind p = true → wide p = true) :
    store.Responds wide := by
  intro s token name
  obtain ⟨a, ha, hp⟩ := h s token name
  exact ⟨a, ha, fun p he => hw p (hp p he)⟩

lemma noted (h : store.Responds Problem.isStore) (s : σ) (token name : String) (c : Cache) :
    ∃ a, (store.fetch s token name).1.value = a.mapError Failure.problem ∧
      c.note name (store.fetch s token name).1.value = c.remember name a := by
  obtain ⟨a, ha, hp⟩ := h s token name
  refine ⟨a, ha, ?_⟩
  rw [ha]
  cases a with
  | error p => exact if_pos (hp p rfl)
  | ok g => rfl

lemma transcribed {kind : Problem → Bool} (h : store.Responds kind) : store.transcribed.Responds kind :=
  fun s token name => h s.1 token name

end SecretStore.Responds

namespace Sync

open Sync.Action

variable {π α : Type} {k : Context σ π} {root : Path} {token name : String}

inductive Command
  | pull
  | diff
  | push
deriving DecidableEq

namespace Command

def run (k : Context σ π) (root : Path) : Command → Action σ π Outcome
  | pull => Sync.pull k root
  | diff => Sync.diff k root
  | push => Sync.push k root

def rest (k : Context σ π) (root : Path) (token : String) (x : Extraction) : Command → Action σ π Outcome
  | pull => do
    let results ← pullEach k token root x.secrets
    let start := Outcome.ofExtraction x
    pure { start with
      written := results.filterMap fun (path, reason) => if reason.isNone then some path else none
      failures := start.failures ++ results.filterMap fun (path, reason) => reason.map fun r => (path, r) }
  | diff => do
    let drifted ← compare k token root x.secrets
    if drifted.isEmpty then sayPlain k "The config files are up to date with the Vault Bunker."
    renderEach k root drifted
    pure { Outcome.ofExtraction x with drifted := drifted }
  | push => do
    let drifted ← compare k token root x.secrets
    let pushed ← pushDrifted k token root drifted
    pure { Outcome.ofExtraction x with drifted := drifted, pushed := pushed }

lemma run_eq_discover_bind (c : Command) : c.run k root = (discover k root >>= fun x =>
    Sync.token k >>= fun token => c.rest k root token x) := by
  cases c <;> rfl

end Command

lemma secret_mem_of_compare {is : List SecretInfo} {s s' : Session σ π} {ds : List Drift}
    (h : (compare k token root is).result s = (.ok ds, s')) : ∀ d ∈ ds, d.secret ∈ is := by
  obtain ⟨s₁, records, hd, -⟩ := ok_of_compare h
  exact fun d hm => (backed_of_driftOf hd d hm).1

section Along

variable {R : Session σ π → Session σ π → Prop} {F : Session σ π → Prop} (h : Outward R F)

include h

lemma survey_along (hg : ∀ token name, Along R F (Action.group k token name)) : Along R F (survey k root) :=
  (discover_along h).bind fun _ => (h.lift _).bind fun token =>
    (compare_along h fun i _ => hg token i.groupPath).bind fun _ => Along.pure _

lemma rest_along (c : Command) {x : Extraction}
    (hg : ∀ i ∈ x.secrets, Along R F (Action.group k token i.groupPath))
    (hu : c = .push → ∀ name data, Along R F (Action.update k token name data)) :
    Along R F (c.rest k root token x) := by
  cases c with
  | pull => exact (pullEach_along h hg).bind fun _ => Along.pure _
  | diff =>
    refine (compare_along h hg).bind fun ds => ?_
    refine Along.ite ((sayPlain_along h _).bind fun _ => ?_) ?_
    all_goals exact (renderEach_along h ds).bind fun _ => Along.pure _
  | push =>
    refine (compare_along h hg).bind_of fun ds s s' hc => ?_
    have hds : ∀ d ∈ ds, Along R F (Action.group k token d.secret.groupPath) := fun d hd =>
      hg d.secret (secret_mem_of_compare hc d hd)
    exact (pushDrifted_along h (hu rfl) hds).bind fun _ => Along.pure _

end Along

section Itself

def Itself (P : Session σ π → Prop) (s u : Session σ π) : Prop := u = s ∧ P s

lemma outward_itself {P : Session σ π → Prop} (hp : ∀ s t p lines xs, P s → P (s.moved t p lines xs)) :
    Outward (Itself P) fun _ => True where
  project h := by rw [h.1]
  prompter h := by rw [h.1]
  printed h := by rw [h.1]
  moved t p lines xs h := ⟨by rw [h.1], hp _ t p lines xs h.2⟩
  back _ _ _ _ _ := trivial

lemma Along.of_always {P : Session σ π → Prop} {a : Action σ π α} (h : ∀ s, P s → P (a.result s).2) :
    Along (Itself P) (fun _ => True) a := by
  refine ⟨fun _ => trivial, ?_⟩
  rintro s u ⟨rfl, hs⟩ -
  exact ⟨rfl, rfl, h _ hs⟩

lemma Along.always {P : Session σ π → Prop} {a : Action σ π α} (h : Along (Itself P) (fun _ => True) a)
    {s : Session σ π} (hs : P s) : P (a.result s).2 := (h.same ⟨rfl, hs⟩ trivial).2.2

end Itself

lemma unasked_discover (k : Context σ π) (root : Path) (s : Session σ π) :
    ((discover k root).result s).2.store = s.store ∧ ((discover k root).result s).2.cache = s.cache := by
  have ho : Outward (Itself fun u : Session σ π => u.store = s.store ∧ u.cache = s.cache) fun _ => True :=
    outward_itself fun _ _ _ _ _ hu => hu
  exact (discover_along ho).always ⟨rfl, rfl⟩

lemma run_cases (k : Context σ π) (root : Path) (c : Command) (s : Session σ π) :
    (∃ e s₁, (c.run k root).result s = (.error e, s₁) ∧ s₁.store = s.store ∧ s₁.cache = s.cache) ∨
      ∃ x s₁ token, (discover k root).result s = (.ok x, s₁) ∧ requireToken k.settings.token = .ok token ∧
        (c.run k root).result s = (c.rest k root token x).result s₁ ∧ s₁.store = s.store ∧
        s₁.cache = s.cache := by
  have hu := unasked_discover k root s
  rw [c.run_eq_discover_bind]
  rcases hx : (discover k root).result s with ⟨e | x, s₁⟩
  · rw [hx] at hu
    exact .inl ⟨e, s₁, result_bind_error hx _, hu⟩
  · rw [hx] at hu
    rw [result_bind_ok hx]
    rcases ht : (Sync.token k).result s₁ with ⟨e | token, s₂⟩
    · obtain rfl : s₂ = s₁ := by
        rw [Sync.token, result_lift] at ht
        exact (congrArg Prod.snd ht).symm
      exact .inl ⟨e, s₂, result_bind_error ht _, hu⟩
    · obtain ⟨htoken, rfl⟩ := ok_of_token ht
      exact .inr ⟨x, s₂, token, rfl, htoken, result_bind_ok ht _, hu⟩

section Asks

/-- The store was asked for what is known and for nothing else, each time for one of the groups of `names`. -/
structure Asks (token : String) (names : List String) (s : Session (σ × List Exchange) π) : Prop where
  transcript : fetched s.store.2 = s.cache.fetches token
  distinct : Json.Distinct s.cache.answers
  within : ∀ name ∈ s.cache.answers.map Prod.fst, name ∈ names

lemma fetched_fetches (token : String) (c : Cache) : fetched (c.fetches token) = c.fetches token := by
  rw [fetched, List.filter_eq_self]
  rintro e he
  obtain ⟨x, -, rfl⟩ := List.mem_map.1 he
  rfl

lemma group_fetches (token : String) (c : Cache) :
    (c.fetches token).map Exchange.group = (c.answers.map Prod.fst).reverse := by
  rw [Cache.fetches, List.map_map, ← List.map_reverse]
  rfl

lemma outward_asks (token : String) (names : List String) :
    Outward (Itself (Asks (σ := σ) (π := π) token names)) fun _ => True :=
  outward_itself fun _ _ _ _ _ hs => ⟨hs.transcript, hs.distinct, hs.within⟩

lemma group_asks (hr : k.store.Responds Problem.isStore) {names : List String} {name : String}
    (hn : name ∈ names) :
    Along (Itself (Asks token names)) (fun _ => True) (Action.group k.transcribed token name) := by
  refine Along.of_always fun s hs => ?_
  cases ha : s.cache.answer? name with
  | some a =>
    rw [group_of_known ha]
    exact hs
  | none =>
    obtain ⟨records, hg⟩ := group_of_unknown k.transcribed token ha
    obtain ⟨a, hv, hc⟩ := hr.noted s.store.1 token name s.cache
    rw [hg]
    have hnote : s.cache.note name (k.transcribed.store.fetch s.store token name).1.value =
        s.cache.remember name a := hc
    constructor
    · change fetched (s.store.2 ++ [.fetch token name (k.store.fetch s.store.1 token name).1.value]) =
        (s.cache.note name _).fetches token
      rw [hnote, fetches_remember, fetched_append, hs.transcript, hv]
      rfl
    · change Json.Distinct (s.cache.note name _).answers
      rw [hnote]
      exact distinct_remember hs.distinct ha a
    · change ∀ key ∈ (s.cache.note name _).answers.map Prod.fst, key ∈ names
      rw [hnote]
      exact List.forall_mem_cons.2 ⟨hn, hs.within⟩

lemma update_asks (token : String) (names : List String) (name : String) (data : Group) :
    Along (Itself (Asks token names)) (fun _ => True) (Action.update k.transcribed token name data) := by
  refine Along.of_always fun s hs => ⟨?_, hs.distinct, hs.within⟩
  change fetched (s.store.2 ++ [.update token name data _]) = _
  rw [fetched_append, hs.transcript]
  exact List.append_nil _

lemma rest_asks (hr : k.store.Responds Problem.isStore) (c : Command) {x : Extraction}
    {s : Session (σ × List Exchange) π} (hs : s.store.2 = []) (hc : s.cache = .empty) :
    Asks token (x.secrets.map SecretInfo.groupPath) ((c.rest k.transcribed root token x).result s).2 := by
  have hstart : Asks token (x.secrets.map SecretInfo.groupPath) s := by
    refine ⟨?_, ?_, ?_⟩
    · rw [hs, hc]
      rfl
    · rw [hc]
      exact List.nodup_nil
    · rw [hc]
      intro name hn
      cases hn
  refine (rest_along (outward_asks token _) c ?_ fun _ => update_asks token _).always hstart
  exact fun i hi => group_asks hr (List.mem_map_of_mem hi)

end Asks

section Replay

def Within (c : Cache) (s : Session σ π) : Prop := ∀ name a, s.cache.answer? name = some a → c.answer? name = some a

structure Replay (c : Cache) (v : σ) (s u : Session σ π) : Prop where
  project : u.project = s.project
  prompter : u.prompter = s.prompter
  printed : u.printed = s.printed
  cache : u.cache = c
  store : u.store = v

lemma outward_replay (c : Cache) (v : σ) : Outward (Replay (π := π) c v) (Within c) where
  project h := h.project
  prompter h := h.prompter
  printed h := h.printed
  moved _ _ _ _ h := ⟨rfl, rfl, rfl, h.cache, h.store⟩
  back _ _ _ _ h := h

lemma known_of_group (hr : k.store.Responds Problem.isStore) (token name : String) (s : Session σ π) :
    ∃ a c v records, (Action.group k token name).result s =
        (a.mapError Failure.problem, { s with cache := c, store := v, records := records }) ∧
      c.answer? name = some a ∧ ∀ key b, s.cache.answer? key = some b → c.answer? key = some b := by
  cases hn : s.cache.answer? name with
  | some a => exact ⟨a, s.cache, s.store, s.records, group_of_known hn, hn, fun _ _ hb => hb⟩
  | none =>
    obtain ⟨records, hg⟩ := group_of_unknown k token hn
    obtain ⟨a, hv, hc⟩ := hr.noted s.store token name s.cache
    rw [hv] at hg hc
    refine ⟨a, _, _, records, hg, ?_, fun key b hb => Cache.answer?_note hb hn _⟩
    rw [hc, Cache.answer?_remember]

lemma within_of_group (hr : k.store.Responds Problem.isStore) {c : Cache} {s : Session σ π}
    (h : Within c ((Action.group k token name).result s).2) : Within c s := by
  obtain ⟨a, known, v, records, hg, -, hkeeps⟩ := known_of_group hr token name s
  rw [hg] at h
  exact fun key b hb => h key b (hkeeps key b hb)

lemma group_replay (hr : k.store.Responds Problem.isStore) (c : Cache) (v : σ) (token name : String) :
    Along (Replay c v) (Within c) (Action.group k token name) := by
  refine ⟨within_of_group hr, fun {s u} h hs => ?_⟩
  obtain ⟨a, known, w, records, hg, ha, -⟩ := known_of_group hr token name s
  rw [hg] at hs ⊢
  have hu : u.cache.answer? name = some a := by
    rw [h.cache]
    exact hs name a ha
  rw [group_of_known hu]
  exact ⟨rfl, h.project, h.prompter, h.printed, h.cache, h.store⟩

def Unlogged (s u : Session σ π) : Prop := ∃ records, u = { s with records := records }

lemma outward_unlogged : Outward (Unlogged (σ := σ) (π := π)) fun _ => True where
  project := by
    rintro s _ ⟨records, rfl⟩
    rfl
  prompter := by
    rintro s _ ⟨records, rfl⟩
    rfl
  printed := by
    rintro s _ ⟨records, rfl⟩
    rfl
  moved := by
    rintro s _ t p lines xs ⟨records, rfl⟩
    exact ⟨_, rfl⟩
  back _ _ _ _ _ := trivial

def finish (k : Context σ π) (root : Path) (y : Survey) : Action σ π Outcome := do
  let pushed ← pushDrifted k y.token root y.drifted
  pure (Outcome.ofSurvey y pushed)

lemma push_eq_finish (k : Context σ π) (root : Path) : push k root = (survey k root >>= finish k root) :=
  push_eq_survey_bind k root

lemma finish_unlogged (k : Context σ π) (root : Path) (y : Survey) :
    Along Unlogged (fun _ => True) (finish k root y) := by
  refine (pushDrifted_along outward_unlogged ?_ ?_).bind fun pushed => Along.pure _
  · intro name data
    refine ⟨fun _ => trivial, ?_⟩
    rintro s _ ⟨records, rfl⟩ -
    exact ⟨rfl, _, rfl⟩
  · intro d _
    refine ⟨fun _ => trivial, ?_⟩
    rintro s _ ⟨records, rfl⟩ -
    exact ⟨rfl, _, rfl⟩

lemma finish_learns_nothing (k : Context σ π) (root : Path) {c : Cache} {y : Survey} (h : ∀ d ∈ y.drifted, Backed c d) :
    Along (Itself fun u : Session σ π => u.cache = c) (fun _ => True) (finish k root y) := by
  refine (pushDrifted_along (outward_itself fun _ _ _ _ _ hu => hu) ?_ ?_).bind fun pushed => Along.pure _
  · exact fun name data => Along.of_always fun u hu => hu
  · intro d hd
    obtain ⟨g, hg, -⟩ := h d hd
    refine Along.of_always fun u hu => ?_
    rw [group_of_known (by rw [hu, hg])]
    exact hu

lemma Replay.unlogged {c : Cache} {v : σ} {s u : Session σ π} (h : Replay c v s u) (hc : s.cache = c)
    (hv : s.store = v) : Unlogged s u := by
  obtain ⟨hproject, hprompter, hprinted, hcache, hstore⟩ := h
  refine ⟨u.records, ?_⟩
  cases s
  cases u
  simp_all

lemma rerun {a : Action σ π α} (ha : ∀ c v, Along (Replay c v) (Within c) a) {s s' : Session σ π}
    {r : Except Failure α} (h : a.result s = (r, s')) :
    ∃ u, a.result { s with cache := s'.cache, store := s'.store } = (r, u) ∧ Unlogged s' u := by
  have hstart : Replay s'.cache s'.store s { s with cache := s'.cache, store := s'.store } :=
    ⟨rfl, rfl, rfl, rfl, rfl⟩
  have hend : Within s'.cache (a.result s).2 := by
    rw [h]
    exact fun _ _ ha => ha
  obtain ⟨hv, hu⟩ := (ha _ _).same hstart hend
  rw [h] at hv hu
  exact ⟨(a.result { s with cache := s'.cache, store := s'.store }).2, Prod.ext hv rfl, hu.unlogged rfl rfl⟩

/-- A state of the store in which all that a run asks for has been asked. -/
inductive Settled (k : Context σ π) (root : Path) (s s' : Session σ π) : σ → Prop
  | ended : Settled k root s s' s'.store
  | surveyed {y s₁} : (survey k root).result s = (.ok y, s₁) → s'.cache = s₁.cache → Settled k root s s' s₁.store

lemma push_rerun (hr : k.store.Responds Problem.isStore) {s s' : Session σ π} {r : Except Failure Outcome}
    (h : (push k root).result s = (r, s')) :
    ∃ v u, Settled k root s s' v ∧
      (push k root).result { s with cache := s'.cache, store := v } = (r, u) ∧ Unlogged s' u := by
  have hsurvey : ∀ c v, Along (Replay c v) (Within c) (survey k root) := fun c v =>
    survey_along (outward_replay c v) (group_replay hr c v)
  rw [push_eq_finish] at h ⊢
  rcases hy : (survey k root).result s with ⟨e | y, s₁⟩
  · rw [result_bind_error hy] at h
    cases h
    obtain ⟨u, hu, hsame⟩ := rerun hsurvey hy
    exact ⟨_, u, .ended, result_bind_error hu _, hsame⟩
  · rw [result_bind_ok hy] at h
    obtain ⟨u₁, hu₁, hsame⟩ := rerun hsurvey hy
    have hbacked : ∀ d ∈ y.drifted, Backed s₁.cache d := fun d hd => (backed_of_survey hy d hd).2.2
    have hcache : s'.cache = s₁.cache := by
      have hlearns := (finish_learns_nothing k root hbacked).always rfl
      rwa [h] at hlearns
    obtain ⟨hv, hu⟩ := (finish_unlogged k root y).same hsame trivial
    rw [h] at hv hu
    refine ⟨s₁.store, _, .surveyed hy hcache, ?_, hu⟩
    rw [hcache, result_bind_ok hu₁]
    exact Prod.ext hv rfl

lemma exists_rerun (hr : k.store.Responds Problem.isStore) (c : Command) {s s' : Session σ π}
    {r : Except Failure Outcome} (h : (c.run k root).result s = (r, s')) :
    ∃ v u, Settled k root s s' v ∧
      (c.run k root).result { s with cache := s'.cache, store := v } = (r, u) ∧ Unlogged s' u := by
  by_cases hpush : c = .push
  · subst hpush
    exact push_rerun hr h
  · have hrun : ∀ known v, Along (Replay known v) (Within known) (c.run k root) := by
      intro known v
      have ho := outward_replay (π := π) known v
      rw [c.run_eq_discover_bind]
      refine (discover_along ho).bind fun x => (ho.lift _).bind fun token => ?_
      exact rest_along ho c (fun i _ => group_replay hr known v token i.groupPath) (absurd · hpush)
    obtain ⟨u, hu, hsame⟩ := rerun hrun h
    exact ⟨_, u, .ended, hu, hsame⟩

end Replay

section Transcribed

variable {t : Project} {s₀ : σ} {p₀ : π}

lemma run_without_token (k : Context σ π) (root : Path) (c : Command) (s : Session σ π)
    (ht : ∀ token, requireToken k.settings.token ≠ .ok token) :
    ((c.run k root).result s).2.store = s.store ∧ ((c.run k root).result s).2.cache = s.cache := by
  rcases run_cases k root c s with ⟨e, s₁, h, hs⟩ | ⟨x, s₁, token, -, htoken, -⟩
  · rwa [h]
  · exact absurd htoken (ht token)

lemma run_asks (hr : k.store.Responds Problem.isStore) (root : Path) (c : Command) (t : Project) (s₀ : σ) (p₀ : π)
    (ht : requireToken k.settings.token = .ok token) :
    ∃ names, Asks token names ((c.run k.transcribed root).result (.start t (s₀, []) p₀)).2 ∧
      ∀ name ∈ names, ∃ x s₁, (discover k.transcribed root).result (.start t (s₀, []) p₀) = (.ok x, s₁) ∧
        ∃ i ∈ x.secrets, i.groupPath = name := by
  rcases run_cases k.transcribed root c (.start t (s₀, []) p₀) with
    ⟨e, s₁, h, hs, hc⟩ | ⟨x, s₁, own, hx, hown, h, hs, hc⟩
  · refine ⟨[], ?_, fun name hn => by cases hn⟩
    rw [h]
    constructor
    · rw [hs, hc]
      rfl
    · rw [hc]
      exact List.nodup_nil
    · rw [hc]
      intro name hn
      cases hn
  · obtain rfl : token = own := Except.ok.inj (ht.symm.trans hown)
    refine ⟨x.secrets.map SecretInfo.groupPath, ?_, fun name hn => ⟨x, s₁, hx, List.mem_map.1 hn⟩⟩
    rw [h]
    exact rest_asks hr c (congrArg Prod.snd hs) hc

lemma Asks.mem_iff {names : List String} {s : Session (σ × List Exchange) π} (h : Asks token names s)
    {own name : String} {answer : Except Failure Group} :
    .fetch own name answer ∈ s.store.2 ↔
      own = token ∧ ∃ a, s.cache.answer? name = some a ∧ answer = a.mapError Failure.problem := by
  have hf : Exchange.fetch own name answer ∈ s.store.2 ↔ .fetch own name answer ∈ s.cache.fetches token := by
    rw [← h.transcript, fetched, List.mem_filter]
    exact (and_iff_left rfl).symm
  rw [hf, Cache.fetches, List.mem_map]
  constructor
  · rintro ⟨⟨key, a⟩, ha, he⟩
    cases he
    exact ⟨rfl, a, Association.lookup_of_mem h.distinct (List.mem_reverse.1 ha), rfl⟩
  · rintro ⟨rfl, a, ha, rfl⟩
    exact ⟨(name, a), List.mem_reverse.2 (Association.mem_of_lookup ha), rfl⟩

lemma Settled.fetched {names : List String} {s' : Session (σ × List Exchange) π} {v : σ × List Exchange}
    (h : Settled k.transcribed root (.start t (s₀, []) p₀) s' v)
    (ht : requireToken k.settings.token = .ok token) (hs : Asks token names s') :
    ConfigKeeper.fetched v.2 = ConfigKeeper.fetched s'.store.2 := by
  cases h with
  | ended => rfl
  | @surveyed y s₁ hy hc =>
    have hm := survey_mirrors rfl rfl hy
    obtain ⟨-, -, htoken, -⟩ := ok_of_survey hy
    obtain rfl : token = y.token := Except.ok.inj (ht.symm.trans htoken)
    rw [hm.transcript, fetched_fetches, hs.transcript, hc]

end Transcribed

/-- In a run no group is fetched twice, and only groups of the secrets that were found are. What the
run knows in the end is what it was answered, failures included. And the run goes as if it had known
that from the start: then it fetches nothing more, and it gives, writes, shows, asks, prints and sends
the same. So each lookup of a group has the one answer that is known in the end. -/
theorem fetched_once (k : Context σ π) (root : Path) (c : Command) (t : Project) (s₀ : σ) (p₀ : π)
    (hr : k.store.Responds Problem.isStore) :
    let start : Session (σ × List Exchange) π := .start t (s₀, []) p₀
    let run := (c.run k.transcribed root).result start
    ((fetched run.2.store.2).map Exchange.group).Nodup ∧
      (∀ e ∈ fetched run.2.store.2, ∃ x s₁, (discover k.transcribed root).result start = (.ok x, s₁) ∧
        ∃ i ∈ x.secrets, i.groupPath = e.group) ∧
      (∀ token name answer, .fetch token name answer ∈ run.2.store.2 ↔
        requireToken k.settings.token = .ok token ∧
          ∃ a, run.2.cache.answer? name = some a ∧ answer = a.mapError Failure.problem) ∧
      ∃ v, fetched v.2 = fetched run.2.store.2 ∧
        let again := (c.run k.transcribed root).result { start with cache := run.2.cache, store := v }
        again.1 = run.1 ∧ again.2 = { run.2 with records := again.2.records } := by
  intro start run
  obtain ⟨v, u, hv, hagain, records, hu⟩ := exists_rerun (k := k.transcribed) hr.transcribed c (s := start) rfl
  have hsame : ∀ {again}, again = (run.1, u) →
      again.1 = run.1 ∧ again.2 = { run.2 with records := again.2.records } := by
    rintro _ rfl
    rw [hu]
    exact ⟨rfl, rfl⟩
  -- without a token the run stops before it asks for anything
  by_cases ht : ∃ token, requireToken k.settings.token = .ok token
  · obtain ⟨token, ht⟩ := ht
    obtain ⟨names, ha, hnames⟩ := run_asks hr root c t s₀ p₀ ht
    refine ⟨?_, fun e he => ?_, fun own name answer => ?_, v, hv.fetched ht ha, hsame hagain⟩
    · rw [ha.transcript, group_fetches, List.nodup_reverse]
      exact ha.distinct
    · rw [ha.transcript] at he
      have hg : e.group ∈ ((run.2.cache.fetches token).map Exchange.group) := List.mem_map_of_mem he
      rw [group_fetches, List.mem_reverse] at hg
      exact hnames e.group (ha.within e.group hg)
    · rw [ha.mem_iff, ht, Except.ok.injEq, eq_comm (a := token)]
  · have hn := run_without_token k.transcribed root c start fun token h => ht ⟨token, h⟩
    have hempty : run.2.store.2 = [] := congrArg Prod.snd hn.1
    have hfetched : fetched run.2.store.2 = [] := by
      rw [hempty]
      rfl
    refine ⟨?_, ?_, fun own name answer => ?_, v, ?_, hsame hagain⟩
    · rw [hfetched]
      exact List.nodup_nil
    · rw [hfetched]
      exact fun e he => by cases he
    · rw [hempty]
      exact iff_of_false List.not_mem_nil fun h => ht ⟨own, h.1⟩
    · cases hv with
      | ended => rfl
      | surveyed hy _ =>
        obtain ⟨-, -, htoken, -⟩ := ok_of_survey hy
        exact absurd ⟨_, htoken⟩ ht

def fickle : SecretStore Nat where
  fetch n _ _ := (pure (.ok [("k", toString n), ("m", toString n)]), n + 1)
  update n _ _ _ := (pure (.ok ()), n)

lemma fickle_responds : fickle.Responds Problem.isStore := fun n _ _ =>
  ⟨.ok [("k", toString n), ("m", toString n)], rfl, fun _ he => by cases he⟩

theorem fetched_once_of_fickle :
    let start : Session (Nat × List Exchange) Unit :=
      .start (projectOf "vault:secret/g#k" "out.txt" [(["out.txt"], .file (utf8 "new\n"))]) (0, []) ()
    let run := (Command.push.run (Context.plain fickle).transcribed manifestPath).result start
    fickle.Responds Problem.isStore ∧ ((fetched run.2.store.2).map Exchange.group).Nodup ∧
      run.2.store.2 = [.fetch "tok" "g" (.ok [("k", "0"), ("m", "0")]),
        .update "tok" "g" [("k", "new\n"), ("m", "0")] (.ok ())] := by
  intro start run
  refine ⟨fickle_responds, ?_, by decide +kernel⟩
  exact (fetched_once (Context.plain fickle) manifestPath .push _ 0 () fickle_responds).1

end Sync

end ConfigKeeper
