import ConfigKeeper.Proofs.Sync.Comparison
import ConfigKeeper.Proofs.Sync.Reread
import ConfigKeeper.Proofs.Sync.Transcript
import ConfigKeeper.Proofs.Text.Split

/-!
What a comparison reports on any store. A run asks for each group once, so what the store answered is
one content of the groups, and the run's result is read off it secret by secret.
-/

namespace ConfigKeeper.Sync

open Sync.Action

variable {σ π : Type} {k : Context σ π} {root : Path} {token : String}
variable {content : String → Except Failure Group} {t : Project} {needed : String → Prop}
variable {i : SecretInfo} {is : List SecretInfo}

def valueOf (content : String → Except Failure Group) (i : SecretInfo) : Except Failure String :=
  match content i.groupPath with
  | .error f => .error f
  | .ok g => match g.lookup i.name with
    | some value => .ok value
    | none => .error (.problem (.invalidSecretPath i.annotatedFile.toString i.raw))

def fault? (content : String → Except Failure Group) (t : Project) (i : SecretInfo) : Option Failure :=
  match t.isPresent i.localPath, (t.readSource i.localPath).value, valueOf content i with
  | .error e, _, _ => some (.file e)
  | .ok false, _, _ => none
  | .ok true, .error f, _ => some f
  | .ok true, .ok _, .error f => some f
  | .ok true, .ok _, .ok _ => none

lemma value?_of_valueOf (content : String → Except Failure Group) (i : SecretInfo) :
    value? content i = (valueOf content i).toOption := by
  rw [value?, valueOf]
  rcases content i.groupPath with f | g
  · rfl
  · simp only
    cases g.lookup i.name <;> rfl

/-- The store gave each answer in accord with `content`. -/
def Agrees (content : String → Except Failure Group) (transcript : List Exchange) : Prop :=
  ∀ token name a, .fetch token name a ∈ transcript → a = content name

lemma Agrees.mono {xs ys : List Exchange} (h : Agrees content ys) (hp : xs <+: ys) : Agrees content xs :=
  fun token name a ha => h token name a (hp.subset ha)

section Recall

structure Recalls (token : String) (needed : String → Prop) (t : Project) (s : Session (σ × List Exchange) π) :
    Prop where
  project : s.project = t
  told : ∀ name a, s.cache.answer? name = some a → .fetch token name (a.mapError Failure.problem) ∈ s.store.2
  asks : ∀ e ∈ s.store.2, ∃ name a, needed name ∧ s.cache.answer? name = some a ∧
    e = .fetch token name (a.mapError Failure.problem)

structure Consults (token : String) (needed : String → Prop) (t : Project) (s : Session (σ × List Exchange) π) :
    Prop where
  project : s.project = t
  asks : ∀ e ∈ s.store.2, ∃ name a, needed name ∧ e = .fetch token name a
  agrees : ∃ content, Agrees content s.store.2

lemma Recalls.consults {s : Session (σ × List Exchange) π} (h : Recalls token needed t s) :
    Consults token needed t s := by
  refine ⟨h.project, ?_, ?_⟩
  · intro e he
    obtain ⟨name, a, hn, -, rfl⟩ := h.asks e he
    exact ⟨name, _, hn, rfl⟩
  · refine ⟨fun name => ((s.cache.answer? name).getD (.ok [])).mapError Failure.problem, ?_⟩
    intro own name a ha
    obtain ⟨name', a', -, hc, he⟩ := h.asks _ ha
    cases he
    simp only [hc, Option.getD_some]

lemma quiet_recalls : Quiet (Recalls (σ := σ) (π := π) token needed t) (Consults token needed t) :=
  ⟨fun _ _ _ hs => ⟨hs.project, hs.told, hs.asks⟩, fun _ hs => hs.consults⟩

lemma recalls_start (t : Project) (s₀ : σ) (p₀ : π) :
    Recalls token needed t (.start t (s₀, ([] : List Exchange)) p₀) := by
  refine ⟨rfl, fun name a ha => ?_, fun e he => ?_⟩
  · cases ha
  · cases he

lemma recalls_asked {name : String} {g : Group} (hn : needed name) {s : Session (σ × List Exchange) π}
    (hs : Recalls token needed t s) (hnew : s.cache.answer? name = none)
    (hv : (k.store.fetch s.store.1 token name).1.value = .ok g) :
    Recalls token needed t (asked k.transcribed token name s) := by
  have hcache : (asked k.transcribed token name s).cache = s.cache.note name (.ok g) := by
    rw [← hv]
    rfl
  refine ⟨hs.project, ?_, ?_⟩
  · intro key a ha
    rw [hcache] at ha
    rw [asked_transcript, hv]
    rcases Cache.answer?_of_note ha with hold | ⟨rfl, hg⟩
    · exact List.mem_append_left _ (hs.told key a hold)
    · rw [hg]
      exact List.mem_append_right _ List.mem_cons_self
  · intro e he
    rw [asked_transcript, hv, List.mem_append, List.mem_singleton] at he
    rw [hcache]
    rcases he with he | rfl
    · obtain ⟨key, a, hneed, ha, rfl⟩ := hs.asks e he
      exact ⟨key, a, hneed, Cache.answer?_note ha hnew _, rfl⟩
    · exact ⟨name, .ok g, hn, Cache.answer?_note_ok _ _ _, rfl⟩

lemma consults_asked {name : String} (hn : needed name) {s : Session (σ × List Exchange) π}
    (hs : Recalls token needed t s) (hnew : s.cache.answer? name = none) :
    Consults token needed t (asked k.transcribed token name s) := by
  obtain ⟨content, hcontent⟩ := hs.consults.agrees
  refine ⟨hs.project, ?_, Function.update content name (k.store.fetch s.store.1 token name).1.value, ?_⟩
  · intro e he
    rw [asked_transcript, List.mem_append, List.mem_singleton] at he
    rcases he with he | rfl
    · exact hs.consults.asks e he
    · exact ⟨name, _, hn, rfl⟩
  · intro own key a ha
    rw [asked_transcript, List.mem_append, List.mem_singleton] at ha
    rcases ha with ha | ha
    · -- an exchange of before is about a known group, so about another one
      obtain ⟨key', a', -, hc, he⟩ := hs.asks _ ha
      cases he
      have hne : key ≠ name := by
        rintro rfl
        rw [hnew] at hc
        cases hc
      rw [Function.update_of_ne hne]
      exact hcontent _ _ _ ha
    · cases ha
      rw [Function.update_self]

lemma group_recalls {name : String} (hn : needed name) :
    Keeps (Recalls token needed t) (Consults token needed t) (Action.group k.transcribed token name) := by
  apply Keeps.group quiet_recalls
  · intro s g hs hnew hv
    exact recalls_asked hn hs hnew hv
  · intro s e hs hnew _
    exact consults_asked hn hs hnew

lemma drift?_recalls (hn : t.isPresent i.localPath = .ok true → needed i.groupPath) :
    Keeps (Recalls token needed t) (Consults token needed t) (drift? k.transcribed token root i) := by
  rcases hp : t.isPresent i.localPath with e | _ | _
  · have hstop : ∀ s : Session (σ × List Exchange) π, Recalls token needed t s →
        (drift? k.transcribed token root i).result s = (.error (.file e), s) := by
      intro s hs
      apply drift?_of_refused
      rw [hs.project, hp]
    constructor
    · intro s s' d hs h
      rw [hstop s hs] at h
      cases h
    · intro s s' f hs h
      rw [hstop s hs] at h
      cases h
      exact hs.consults
  · have hskip : ∀ s : Session (σ × List Exchange) π, Recalls token needed t s →
        ∃ printed, (drift? k.transcribed token root i).result s = (.ok none, { s with printed := printed }) := by
      intro s hs
      apply drift?_of_absent
      rw [hs.project, hp]
    constructor
    · intro s s' d hs h
      obtain ⟨printed, hr⟩ := hskip s hs
      rw [hr] at h
      cases h
      exact quiet_recalls.silent s printed s.records hs
    · intro s s' f hs h
      obtain ⟨printed, hr⟩ := hskip s hs
      rw [hr] at h
      cases h
  · exact drift?_keeps quiet_recalls (group_recalls (hn hp))

end Recall

section Value

lemma quiet_transcript (before : List Exchange) :
    Quiet (fun s : Session (σ × List Exchange) π => before <+: s.store.2) fun s => before <+: s.store.2 :=
  ⟨fun _ _ _ hs => hs, fun _ hs => hs⟩

lemma group_transcript (before : List Exchange) (name : String) :
    Keeps (fun s => before <+: s.store.2) (fun s => before <+: s.store.2)
      (Action.group k.transcribed token name) := by
  apply Keeps.group_always (quiet_transcript before)
  intro s hs _
  rw [asked_transcript]
  exact hs.trans (List.prefix_append _ _)

lemma driftOf_transcript (k : Context σ π) (root : Path) (token : String) (is : List SecretInfo)
    (s : Session (σ × List Exchange) π) :
    s.store.2 <+: ((driftOf k.transcribed token root is).result s).2.store.2 :=
  Keeps.always (driftOf_keeps fun _ _ => drift?_keeps (quiet_transcript s.store.2) (group_transcript _ _))
    List.prefix_rfl

variable {s : Session (σ × List Exchange) π}

lemma group_of_agrees {name : String} (hs : Recalls token needed t s)
    (h : Agrees content ((Action.group k.transcribed token name).result s).2.store.2) :
    ((Action.group k.transcribed token name).result s).1 = content name := by
  cases ha : s.cache.answer? name with
  | some a =>
    rw [group_of_known ha] at h ⊢
    exact h token name _ (hs.told name a ha)
  | none =>
    obtain ⟨records, hr⟩ := group_of_unknown k.transcribed token ha
    rw [hr] at h ⊢
    exact h token name _ (List.mem_append_right _ List.mem_cons_self)

lemma resolve_of_agrees (hs : Recalls token needed t s)
    (h : Agrees content ((resolve k.transcribed token i).result s).2.store.2) :
    ((resolve k.transcribed token i).result s).1 = valueOf content i := by
  have hgroup : Agrees content ((Action.group k.transcribed token i.groupPath).result s).2.store.2 →
      ((Action.group k.transcribed token i.groupPath).result s).1 = content i.groupPath := group_of_agrees hs
  rcases hg : (Action.group k.transcribed token i.groupPath).result s with ⟨r, s'⟩
  rw [resolve_of_group hg] at h ⊢
  rw [hg] at hgroup
  rw [valueOf, ← hgroup h]
  rcases r with f | g
  · rfl
  · simp only [Except.bind]
    cases g.lookup i.name <;> rfl

lemma drift?_of_agrees (k : Context σ π) (root : Path) (hs : Recalls token needed t s)
    (h : Agrees content ((drift? k.transcribed token root i).result s).2.store.2) :
    ((drift? k.transcribed token root i).result s).1 =
      (fault? content t i).elim (.ok (driftOf? content t i)) .error := by
  have hproject : s.project = t := hs.project
  subst hproject
  rw [fault?, driftOf?, value?_of_valueOf]
  rcases hp : s.project.isPresent i.localPath with e | _ | _
  · rw [drift?_of_refused hp]
    rfl
  · obtain ⟨printed, hr⟩ : ∃ printed, (drift? k.transcribed token root i).result s =
        (.ok none, { s with printed := printed }) := drift?_of_absent hp
    rw [hr]
    rfl
  · rw [drift?_of_present hp] at h ⊢
    have htext := result_logged (s.project.readSource i.localPath) s
    rcases hr : (s.project.readSource i.localPath).value with f | text
    · rw [hr] at htext
      rw [result_bind_error htext]
      rfl
    · rw [hr] at htext
      have hs₁ := (quiet_recalls.logged (s.project.readSource i.localPath)).ok hs htext
      rw [result_bind_ok htext] at h ⊢
      rcases hv : (resolve k.transcribed token i).result _ with ⟨f | value, s₂⟩
      · rw [result_bind_error hv] at h ⊢
        have hvalue : Except.error f = valueOf content i := by
          rw [← resolve_of_agrees (k := k) hs₁ (by rw [hv]; exact h), hv]
        rw [← hvalue]
        rfl
      · rw [result_bind_ok hv] at h ⊢
        have hvalue : Except.ok value = valueOf content i := by
          rw [← resolve_of_agrees (k := k) hs₁ (by rw [hv]; exact h), hv]
        rw [← hvalue]
        rfl

section Elim

variable {α : Type} {fault : Option Failure} {f : Failure} {a b : α}

lemma elim_eq_error_iff : fault.elim (.ok a : Except Failure α) .error = .error f ↔ fault = some f := by
  cases fault <;> simp

lemma elim_eq_ok_iff : fault.elim (.ok a : Except Failure α) .error = .ok b ↔ fault = none ∧ a = b := by
  cases fault <;> simp

end Elim

lemma driftOf_of_agrees (hs : Recalls token (fun _ => True) t s)
    (h : Agrees content ((driftOf k.transcribed token root is).result s).2.store.2) :
    ((driftOf k.transcribed token root is).result s).1 =
      (is.findSome? (fault? content t)).elim (.ok (is.filterMap (driftOf? content t))) .error := by
  induction is generalizing s with
  | nil => rfl
  | cons i is ih =>
    have hkeep : Keeps (Recalls token (fun _ => True) t) (Consults token (fun _ => True) t)
        (drift? k.transcribed token root i) := drift?_recalls fun _ => trivial
    have hi : Agrees content ((drift? k.transcribed token root i).result s).2.store.2 →
        ((drift? k.transcribed token root i).result s).1 =
          (fault? content t i).elim (.ok (driftOf? content t i)) .error := drift?_of_agrees k root hs
    rw [driftOf] at h ⊢
    rcases hd : (drift? k.transcribed token root i).result s with ⟨f | found, s₁⟩
    · rw [result_bind_error hd] at h ⊢
      rw [hd] at hi
      have hf : fault? content t i = some f := elim_eq_error_iff.1 (hi h).symm
      rw [List.findSome?_cons, hf]
      rfl
    · have hs₁ := hkeep.ok hs hd
      rw [result_bind_ok hd, result_bind_pure] at h ⊢
      have hbefore := driftOf_transcript k root token is s₁
      rw [hd] at hi
      obtain ⟨hf, rfl⟩ := elim_eq_ok_iff.1 (hi (h.mono hbefore)).symm
      rw [ih hs₁ h, List.findSome?_cons, hf, List.filterMap_cons]
      rcases is.findSome? (fault? content t) with _ | f
      · cases driftOf? content t i <;> rfl
      · rfl

lemma compare_after (k : Context σ π) (root : Path) (token : String) (is : List SecretInfo) (s : Session σ π) :
    ∃ records, (compare k token root is).result s =
      (((driftOf k token root is).result s).1, { ((driftOf k token root is).result s).2 with records := records }) := by
  rcases hd : (driftOf k token root is).result s with ⟨f | ds, s'⟩
  · exact ⟨s'.records, result_bind_error hd _⟩
  · exact compare_of_driftOf hd

lemma compare_of_agrees (hs : Recalls token (fun _ => True) t s)
    (h : Agrees content ((compare k.transcribed token root is).result s).2.store.2) :
    ((compare k.transcribed token root is).result s).1 =
      (is.findSome? (fault? content t)).elim (.ok (is.filterMap (driftOf? content t))) .error := by
  obtain ⟨records, hr⟩ := compare_after k.transcribed root token is s
  rw [hr] at h ⊢
  exact driftOf_of_agrees hs h

end Value

section Fault

/-- The system refuses to look for the local file of a secret, as a name in its path is too long. -/
def Refused (t : Project) (i : SecretInfo) : Prop :=
  t.isPresent i.localPath = .error (.refused .nameTooLong i.localPath)

def Keyless (content : String → Except Failure Group) (t : Project) (i : SecretInfo) : Prop :=
  t.isPresent i.localPath = .ok true ∧ ∃ g, content i.groupPath = .ok g ∧ g.lookup i.name = none

/-- The local file of a secret can be read and its group can be fetched, if the file is there. -/
def Available (content : String → Except Failure Group) (t : Project) (i : SecretInfo) : Prop :=
  t.isPresent i.localPath = .ok true →
    (∃ text, (t.readSource i.localPath).value = .ok text) ∧ ∃ g, content i.groupPath = .ok g

lemma entry?_error {p : Path} {e : FileError} (h : t.entry? p = .error e) : e = .refused .nameTooLong p := by
  rw [Project.entry?, Project.place] at h
  split at h
  · cases h
  · next q hq =>
    split at hq
    · cases hq
    · split at hq
      · cases hq
        exact (Except.error.inj h).symm
      · split at hq
        · cases hq
        · cases hq
          exact (Except.error.inj h).symm
  · cases h

lemma isPresent_error {e : FileError} (h : t.isPresent i.localPath = .error e) :
    Refused t i ∧ e = .refused .nameTooLong i.localPath := by
  have he : e = .refused .nameTooLong i.localPath := by
    rw [Project.isPresent] at h
    cases hentry : t.entry? i.localPath with
    | ok entry =>
      rw [hentry] at h
      cases h
    | error own =>
      rw [hentry] at h
      cases h
      exact entry?_error hentry
  subst he
  exact ⟨h, rfl⟩

lemma fault?_of_available (h : Available content t i) {f : Failure} : fault? content t i = some f ↔
    (Refused t i ∧ f = .file (.refused .nameTooLong i.localPath)) ∨
      (Keyless content t i ∧ f = .problem (.invalidSecretPath i.annotatedFile.toString i.raw)) := by
  rw [fault?]
  rcases hp : t.isPresent i.localPath with e | _ | _
  · obtain ⟨hr, rfl⟩ := isPresent_error hp
    simp [hr, Keyless, hp, eq_comm]
  · simp [Refused, Keyless, hp]
  · obtain ⟨⟨text, htext⟩, g, hg⟩ := h hp
    have hr : ¬ Refused t i := by simp [Refused, hp]
    rw [htext]
    cases hl : g.lookup i.name with
    | none =>
      have hk : Keyless content t i := ⟨hp, g, hg, hl⟩
      have hv : valueOf content i = .error (.problem (.invalidSecretPath i.annotatedFile.toString i.raw)) := by
        simp only [valueOf, hg, hl]
      rw [hv]
      simp [hr, hk, eq_comm]
    | some value =>
      have hk : ¬ Keyless content t i := by
        rintro ⟨-, own, hown, hnone⟩
        rw [hg, Except.ok.injEq] at hown
        rw [← hown, hl] at hnone
        cases hnone
      have hv : valueOf content i = .ok value := by
        simp only [valueOf, hg, hl]
      rw [hv]
      simp [hr, hk]

lemma fault?_eq_none_of_available (h : Available content t i) :
    fault? content t i = none ↔ ¬ Refused t i ∧ ¬ Keyless content t i := by
  constructor
  · intro hn
    refine ⟨fun hr => ?_, fun hk => ?_⟩
    · have hf := (fault?_of_available h).2 (.inl ⟨hr, rfl⟩)
      rw [hn] at hf
      cases hf
    · have hf := (fault?_of_available h).2 (.inr ⟨hk, rfl⟩)
      rw [hn] at hf
      cases hf
  · rintro ⟨hr, hk⟩
    rw [Option.eq_none_iff_forall_ne_some]
    intro f hf
    rcases (fault?_of_available h).1 hf with ⟨hr', -⟩ | ⟨hk', -⟩
    · exact hr hr'
    · exact hk hk'

/-- The first secret that is refused or keyless, with the failure that it makes. -/
def FirstStop (content : String → Except Failure Group) (t : Project) (is : List SecretInfo) (f : Failure) : Prop :=
  ∃ front i back, is = front ++ i :: back ∧ (∀ j ∈ front, ¬ Refused t j ∧ ¬ Keyless content t j) ∧
    ((Refused t i ∧ f = .file (.refused .nameTooLong i.localPath)) ∨
      (Keyless content t i ∧ f = .problem (.invalidSecretPath i.annotatedFile.toString i.raw)))

lemma findSome?_fault?_iff (h : ∀ i ∈ is, Available content t i) {f : Failure} :
    is.findSome? (fault? content t) = some f ↔ FirstStop content t is f := by
  rw [List.findSome?_eq_some_iff]
  constructor
  · rintro ⟨front, i, back, rfl, hf, hfront⟩
    refine ⟨front, i, back, rfl, ?_, (fault?_of_available (h i (by simp))).1 hf⟩
    intro j hj
    exact (fault?_eq_none_of_available (h j (by simp [hj]))).1 (hfront j hj)
  · rintro ⟨front, i, back, rfl, hfront, hf⟩
    refine ⟨front, i, back, rfl, (fault?_of_available (h i (by simp))).2 hf, ?_⟩
    intro j hj
    exact (fault?_eq_none_of_available (h j (by simp [hj]))).2 (hfront j hj)

lemma findSome?_fault?_eq_none_iff (h : ∀ i ∈ is, Available content t i) :
    is.findSome? (fault? content t) = none ↔ ∀ i ∈ is, ¬ Refused t i ∧ ¬ Keyless content t i := by
  rw [List.findSome?_eq_none_iff]
  exact forall₂_congr fun i hi => fault?_eq_none_of_available (h i hi)

end Fault

section Diff

variable {P E : Session σ π → Prop}

lemma renderEach_keeps (hp : Quiet P E) (ds : List Drift) : Keeps P E (renderEach k root ds) := by
  induction ds with
  | nil => exact Keeps.pure ()
  | cons d ds ih => exact Keeps.bind (hp.print _) fun _ => ih

def present (k : Context σ π) (root : Path) (v : Survey) : Action σ π Outcome := do
  if v.drifted.isEmpty then sayPlain k "The config files are up to date with the Vault Bunker."
  renderEach k root v.drifted
  pure { Outcome.ofExtraction v.extraction with drifted := v.drifted }

lemma diff_eq_present (k : Context σ π) (root : Path) : diff k root = (survey k root >>= present k root) :=
  diff_eq_survey_bind k root

lemma present_keeps (hp : Quiet P E) (v : Survey) : Keeps P E (present k root v) := by
  apply Keeps.ite
  · exact Keeps.bind (hp.printMarkup _ _) fun _ => Keeps.bind (renderEach_keeps hp _) fun _ => Keeps.pure _
  · exact Keeps.bind (renderEach_keeps hp _) fun _ => Keeps.pure _

lemma diff_keeps (hp : Quiet P E) (hg : ∀ token name, Keeps P E (Action.group k token name)) :
    Keeps P E (diff k root) := by
  rw [diff_eq_present]
  exact Keeps.bind (survey_keeps hp hg) (present_keeps hp)

lemma ok_of_present {s s' : Session σ π} {v : Survey} {o : Outcome} (h : (present k root v).result s = (.ok o, s')) :
    o = { Outcome.ofExtraction v.extraction with drifted := v.drifted } ∧ s'.store = s.store := by
  constructor
  · rw [present] at h
    split at h
    · obtain ⟨_, _, -, h⟩ := ok_of_bind h
      obtain ⟨_, _, -, h⟩ := ok_of_bind h
      cases h
      rfl
    · obtain ⟨_, _, -, h⟩ := ok_of_bind h
      cases h
      rfl
  · have hq : Quiet (fun u : Session σ π => u.store = s.store) fun u => u.store = s.store :=
      ⟨fun _ _ _ hu => hu, fun _ hu => hu⟩
    exact (present_keeps hq v).ok rfl h

end Diff

/-- What a comparison made of the secrets, if the groups have the content `content`: what it gives are
the entries that drifted. If each local file that is there can be read and each group that is needed
can be fetched, it fails at the first secret that is refused or has no value, and not otherwise. -/
structure Reports (content : String → Except Failure Group) (t : Project) (is : List SecretInfo)
    (r : Except Failure (List Drift)) : Prop where
  drifted : ∀ ds, r = .ok ds → ds = is.filterMap (driftOf? content t)
  stops : (∀ i ∈ is, Available content t i) →
    ((∃ f, r = .error f) ↔ ∃ i ∈ is, Refused t i ∨ Keyless content t i) ∧
      ∀ f, r = .error f ↔ FirstStop content t is f

lemma reports_of_findSome? {r : Except Failure (List Drift)}
    (h : r = (is.findSome? (fault? content t)).elim (.ok (is.filterMap (driftOf? content t))) .error) :
    Reports content t is r := by
  constructor
  · rintro ds rfl
    exact (elim_eq_ok_iff.1 h.symm).2.symm
  · intro ha
    have herror : ∀ f, r = .error f ↔ is.findSome? (fault? content t) = some f := by
      intro f
      rw [h]
      exact elim_eq_error_iff
    refine ⟨?_, fun f => (herror f).trans (findSome?_fault?_iff ha)⟩
    simp only [herror]
    rw [← Option.isSome_iff_exists, ← not_iff_not, Bool.not_eq_true, Option.isSome_eq_false_iff,
      Option.isNone_iff_eq_none, findSome?_fault?_eq_none_iff ha]
    push Not
    rfl

lemma compare_consults (k : Context σ π) (root : Path) (token : String) (is : List SecretInfo) (t : Project)
    (s₀ : σ) (p₀ : π) :
    Consults token (fun name => ∃ i ∈ is, t.isPresent i.localPath = .ok true ∧ i.groupPath = name) t
      ((compare k.transcribed token root is).result (.start t (s₀, []) p₀)).2 := by
  apply quiet_recalls.after _ (recalls_start t s₀ p₀)
  apply compare_keeps quiet_recalls
  intro i hi
  apply drift?_recalls
  intro hp
  exact ⟨i, hi, hp, rfl⟩

lemma drifted_of_diff {s s' : Session (σ × List Exchange) π} {o : Outcome}
    (hs : ∀ token, Recalls token (fun _ => True) t s) (h : (diff k.transcribed root).result s = (.ok o, s')) :
    ∃ x, ((discover k.transcribed root).result s).1 = .ok x ∧
      ∀ content, Agrees content s'.store.2 → o.drifted = x.secrets.filterMap (driftOf? content t) := by
  rw [diff_eq_present] at h
  obtain ⟨v, s₂, hv, h⟩ := ok_of_bind h
  obtain ⟨rfl, hstore⟩ := ok_of_present h
  obtain ⟨s₁, hx, -, hc⟩ := ok_of_survey hv
  have hs₁ : Recalls v.token (fun _ => True) t s₁ := (discover_keeps quiet_recalls).ok (hs v.token) hx
  refine ⟨v.extraction, congrArg Prod.fst hx, fun content hcontent => ?_⟩
  have hagrees : Agrees content ((compare k.transcribed v.token root v.extraction.secrets).result s₁).2.store.2 := by
    rw [hc, ← hstore]
    exact hcontent
  have hvalue := compare_of_agrees hs₁ hagrees
  rw [hc] at hvalue
  exact (reports_of_findSome? hvalue).drifted v.drifted rfl

/-- On any store a comparison fetches the groups of secrets with a local file and nothing else, what
the store answers is one content, and the result is the one that this content has. A difference shows
the entries that drifted; it changes no file and sends nothing. -/
theorem compare_reports (k : Context σ π) (root : Path) (token : String) (is : List SecretInfo) (t : Project)
    (s₀ : σ) (p₀ : π) :
    let start : Session (σ × List Exchange) π := .start t (s₀, []) p₀
    let compared := (compare k.transcribed token root is).result start
    let shown := (diff k.transcribed root).result start
    (∃ content, Agrees content compared.2.store.2) ∧
      (∀ e ∈ compared.2.store.2, ∃ i ∈ is, t.isPresent i.localPath = .ok true ∧ ∃ a, e = .fetch token i.groupPath a) ∧
      (∀ content, Agrees content compared.2.store.2 → Reports content t is compared.1) ∧
      shown.2.project = t ∧ updates shown.2.store.2 = [] ∧
      ∀ o, shown.1 = .ok o → ∃ x, ((discover k.transcribed root).result start).1 = .ok x ∧
        ∀ content, Agrees content shown.2.store.2 → o.drifted = x.secrets.filterMap (driftOf? content t) := by
  intro start compared shown
  obtain ⟨-, hasks, hagrees⟩ := compare_consults k root token is t s₀ p₀
  have huntouched : Untouched t shown.2 := by
    apply Keeps.always (diff_keeps (quiet_untouched t) fun token name => group_untouched t name)
    exact ⟨rfl, rfl⟩
  refine ⟨hagrees, ?_, ?_, huntouched.1, huntouched.2, ?_⟩
  · intro e he
    obtain ⟨name, a, ⟨i, hi, hp, rfl⟩, rfl⟩ := hasks e he
    exact ⟨i, hi, hp, a, rfl⟩
  · intro content hcontent
    exact reports_of_findSome? (compare_of_agrees (recalls_start t s₀ p₀) hcontent)
  · intro o ho
    exact drifted_of_diff (fun own => recalls_start t s₀ p₀) (Prod.ext ho rfl : shown = (.ok o, shown.2))

section LongName

lemma ofString_of_name {s : List Char} (hs : '/' ∉ s) (hl : 2 ≤ s.length) :
    Path.ofString (String.ofList s) = ⟨.relative, [String.ofList s]⟩ := by
  obtain ⟨c, d, s, rfl⟩ : ∃ c d r, s = c :: d :: r := by
    match s, hl with
    | c :: d :: r, _ => exact ⟨c, d, r, rfl⟩
  have hanchor : Path.anchorOf (c :: d :: s) = .relative := by
    rw [List.mem_cons, not_or] at hs
    rw [Path.anchorOf.eq_def]
    split <;> simp_all
  have hempty : String.ofList (c :: d :: s) ≠ "" := by
    rw [← String.toList_inj.ne, String.toList_ofList]
    simp
  have hdot : String.ofList (c :: d :: s) ≠ "." := by
    rw [← String.toList_inj.ne, String.toList_ofList]
    simp
  rw [Path.ofString, splitOnChar, String.toList_ofList, hanchor, Text.splitAt_of_not_mem hs, List.map_singleton]
  generalize String.ofList (c :: d :: s) = name at hempty hdot
  simp [hempty, hdot]

lemma place_of_long_name {name : String} (hn : '\x00' ∉ name.toList) (hl : Project.nameLimit < name.utf8ByteSize)
    (ht : t.entryAt t.workingDirectory = some .directory) :
    t.place ⟨.relative, [name]⟩ = .error (.refused .nameTooLong ⟨.relative, [name]⟩) := by
  have hfollow : t.follow (t.start ⟨.relative, [name]⟩) [name] = .error .nameTooLong := by
    have hstart : t.start ⟨.relative, [name]⟩ = t.workingDirectory := rfl
    rw [hstart, Project.follow, ht]
    exact if_pos hl
  rw [Project.place, if_neg (by simpa using hn)]
  split
  · rfl
  · rw [hfollow]

lemma refused_of_long_name {name : List Char} (ha : i.annotatedFile = manifestPath)
    (hd : i.destination = String.ofList name) (hs : '/' ∉ name) (hn : '\x00' ∉ name)
    (hl : Project.nameLimit < (String.ofList name).utf8ByteSize) (h2 : 2 ≤ name.length)
    (ht : t.entryAt t.workingDirectory = some .directory) : Refused t i := by
  have hpath : i.localPath = ⟨.relative, [String.ofList name]⟩ := by
    rw [SecretInfo.localPath, ha, hd, ofString_of_name hs h2]
    rfl
  have hplace := place_of_long_name (by rwa [String.toList_ofList]) hl ht
  rw [Refused, hpath, Project.isPresent, Project.entry?, hplace]
  rfl

lemma compare_of_refused {s : Session σ π} (h : Refused s.project i) :
    (compare k token root (i :: is)).result s = (.error (.file (.refused .nameTooLong i.localPath)), s) := by
  have hi : (drift? k token root i).result s = (.error (.file (.refused .nameTooLong i.localPath)), s) :=
    drift?_of_refused h
  have hdrift : (driftOf k token root (i :: is)).result s = _ := result_bind_error hi _
  exact result_bind_error hdrift _

def longSecret : SecretInfo := { oneSecret with destination := String.ofList (List.replicate 256 'x') }

lemma refused_longSecret : Refused oneFile longSecret := by
  apply refused_of_long_name rfl rfl
  · exact fun h => absurd (List.eq_of_mem_replicate h) (by decide)
  · exact fun h => absurd (List.eq_of_mem_replicate h) (by decide)
  · decide +kernel
  · rw [List.length_replicate]
    decide
  · rfl

theorem compare_stopped_by_long_name :
    let content := (storeOf "v").fetch
    let run := (compare (Context.plain Memory.store).transcribed "tok" manifestPath [longSecret]).result
      (.start oneFile (storeOf "v", []) ())
    Agrees content run.2.store.2 ∧ (∀ i ∈ [longSecret], Available content oneFile i) ∧
      (∀ i ∈ [longSecret], ¬ Keyless content oneFile i) ∧
      run.1 = .error (.file (.refused .nameTooLong longSecret.localPath)) := by
  intro content run
  have habsent : oneFile.isPresent longSecret.localPath ≠ .ok true := by
    rw [refused_longSecret]
    exact fun h => by cases h
  have hrun : run = (.error (.file (.refused .nameTooLong longSecret.localPath)),
      .start oneFile (storeOf "v", []) ()) := compare_of_refused refused_longSecret
  rw [hrun]
  refine ⟨?_, ?_, ?_, rfl⟩
  · intro token name a ha
    cases ha
  · intro i hi hp
    rw [List.mem_singleton.1 hi] at hp
    exact absurd hp habsent
  · rintro i hi ⟨hp, -⟩
    rw [List.mem_singleton.1 hi] at hp
    exact habsent hp

end LongName

end ConfigKeeper.Sync
