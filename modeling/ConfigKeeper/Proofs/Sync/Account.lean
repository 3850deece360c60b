import ConfigKeeper.Proofs.Console.Escape
import ConfigKeeper.Proofs.Secret.Reading
import ConfigKeeper.Proofs.Sync.Found
import ConfigKeeper.Proofs.Sync.Once
import ConfigKeeper.Proofs.Sync.Reread
import ConfigKeeper.Proofs.Sync.SingleUpdate

/-!
What a pull does with each secret. It is told why a secret was not written or its file holds the value,
and all other files stay as they were.
-/

namespace ConfigKeeper

namespace Project

variable {t u : Project} {path : Path}

lemma hasNul_of_parent (h : path.parent.HasNul) : path.HasNul := by
  obtain ⟨name, hn, hc⟩ := h
  exact ⟨name, List.mem_of_mem_dropLast hn, hc⟩

lemma makeDirectory_nul (h : t.makeDirectory path = .error .nulInPath) : path.HasNul := by
  rw [← place_eq_nul_iff (t := t)]
  rw [makeDirectory] at h
  cases hp : t.place path with
  | error e =>
    rw [hp] at h
    rw [Except.error.inj h]
  | ok q =>
    rw [hp] at h
    simp only at h
    split at h
    · cases h
    · split at h <;> cases h

lemma isDirectory_not_nul (h : t.isDirectory path = .error .nulInPath) : False := by
  rw [isDirectory, entry?] at h
  split at h <;> cases h

lemma allowPresent_nul {e : FileError} (h : t.allowPresent path e = .error .nulInPath) : e = .nulInPath := by
  cases e with
  | nulInPath => rfl
  | refused fault q =>
    simp only [allowPresent] at h
    split at h
    · cases h
    · cases h
    · next hd =>
      cases h
      exact (isDirectory_not_nul hd).elim

lemma allowed_nul {e : FileError} (he : t.makeDirectory path = .error e)
    (h : (match t.allowPresent path e with
      | .ok t => (t, none)
      | .error e => (t, some e)) = (u, some FileError.nulInPath)) : path.HasNul := by
  split at h
  · cases h
  · next ha =>
    cases h
    rw [allowPresent_nul ha] at he
    exact makeDirectory_nul he

lemma makeDirectories_nul {fuel : Nat} (h : makeDirectories fuel t path = (u, some .nulInPath)) : path.HasNul := by
  induction fuel generalizing t u path with
  | zero => cases h
  | succ fuel ih =>
    rw [makeDirectories] at h
    split at h
    · cases h
    · split at h
      · cases h
      · split at h
        · next hd =>
          cases h
          exact hasNul_of_parent (ih hd)
        · split at h
          · cases h
          · next he => exact allowed_nul he h
    · next he => exact allowed_nul he h

lemma put_nul {content : List UInt8} (h : t.put path content = (u, some .nulInPath)) : path.HasNul := by
  rw [put] at h
  split at h
  · next hd =>
    cases h
    exact hasNul_of_parent (makeDirectories_nul hd)
  · split at h
    · cases h
    · next v _ _ hw =>
      cases h
      rw [← place_eq_nul_iff (t := u)]
      rw [writeFile] at hw
      cases hp : u.place path with
      | error e =>
        rw [hp] at hw
        rw [Except.error.inj hw]
      | ok q =>
        rw [hp] at hw
        simp only at hw
        split at hw
        · cases hw
        · cases hw
        · split at hw <;> cases hw

end Project

namespace Sync

open Sync.Action Console

variable {σ π : Type} {k : Context σ π} {root : Path} {token : String}

section Lines

lemma createdLine_renders (root path : Path) : Renders (createdLine root path) :=
  Markup.render_escape_styled (Markup.closes_of_mem "green" (by decide)) (by decide) (by decide) _

end Lines

/-- What pulling a secret comes to in a tree, by what is given for its group: the reason why it was not
written, and the tree after it. -/
inductive Settles (gives : String → Except Failure Group → Prop) (t : Project) (i : SecretInfo) :
    Option Failure → Project → Prop
  | noGroup {f} : gives i.groupPath (.error f) → Settles gives t i (some f) t
  | noKey {g} : gives i.groupPath (.ok g) → g.lookup i.name = none →
      Settles gives t i (some (.problem (.invalidSecretPath i.annotatedFile.toString i.raw))) t
  | refused {g v u e} : gives i.groupPath (.ok g) → g.lookup i.name = some v →
      t.put i.localPath (utf8 v) = (u, some e) → Settles gives t i (some (.file e)) u
  | written {g v u} : gives i.groupPath (.ok g) → g.lookup i.name = some v →
      t.put i.localPath (utf8 v) = (u, none) → Settles gives t i none u

/-- The secrets are settled one after the other, each in the tree that the one before left. -/
inductive Accounts (gives : String → Except Failure Group → Prop) :
    Project → List (SecretInfo × Option Failure) → Project → Prop
  | nil (t : Project) : Accounts gives t [] t
  | cons {t u v i reason rest} : Settles gives t i reason u → Accounts gives u rest v →
      Accounts gives t ((i, reason) :: rest) v

def Apart (t : Project) (is : List SecretInfo) : Prop :=
  is.Pairwise fun i j => ∀ p, t.place i.localPath = .ok p → t.place j.localPath ≠ .ok p

def Written (gives : String → Except Failure Group → Prop) (t : Project) (i : SecretInfo) : Prop :=
  ∃ g v p, gives i.groupPath (.ok g) ∧ g.lookup i.name = some v ∧ t.place i.localPath = .ok p ∧
    t.entryAt p = some (.file (utf8 v))

def writtenPlaces (t : Project) (results : List (SecretInfo × Option Failure)) : Set Place :=
  {p | ∃ x ∈ results, x.2 = none ∧ t.place x.1.localPath = .ok p}

section Trees

variable {gives : String → Except Failure Group → Prop} {t u v : Project} {i : SecretInfo} {reason : Option Failure}
variable {results : List (SecretInfo × Option Failure)}

lemma Settles.local_of_some {f : Failure} (h : Settles gives t i (some f) u)
    (hg : ∀ name e, gives name (.error e) → isLocal e = true) (hn : ¬ i.localPath.HasNul) : isLocal f = true := by
  cases h with
  | noGroup hf => exact hg _ f hf
  | noKey _ _ => rfl
  | @refused g v u e _ _ hp =>
    cases e with
    | refused fault q => rfl
    | nulInPath => exact absurd (Project.put_nul hp) hn

lemma Accounts.local_of_some (h : Accounts gives t results u)
    (hg : ∀ name e, gives name (.error e) → isLocal e = true) (hn : ∀ x ∈ results, ¬ x.1.localPath.HasNul) :
    ∀ x ∈ results, ∀ f, x.2 = some f → isLocal f = true := by
  induction h with
  | nil t => simp
  | @cons t u v i reason rest hi hrest ih =>
    obtain ⟨hni, hnrest⟩ := List.forall_mem_cons.1 hn
    refine List.forall_mem_cons.2 ⟨?_, ih hnrest⟩
    rintro f rfl
    exact hi.local_of_some hg hni

lemma Settles.refusal {f : Failure} (h : Settles gives t i (some f) u) : Project.Confined ∅ t u := by
  cases h with
  | noGroup _ => exact Project.Confined.refl ∅ t
  | noKey _ _ => exact Project.Confined.refl ∅ t
  | refused _ _ hp => exact Project.put_refused hp

lemma Settles.writing (h : Settles gives t i none u) : ∃ g v p, gives i.groupPath (.ok g) ∧
    g.lookup i.name = some v ∧ u.place i.localPath = .ok p ∧ Project.Confined {p} t u ∧
    u.entryAt p = some (.file (utf8 v)) := by
  cases h with
  | written hg hl hput =>
    obtain ⟨p, hp, hc, hf⟩ := Project.put_ok hput
    exact ⟨_, _, p, hg, hl, hp, hc, hf⟩

lemma Settles.confined (h : Settles gives t i reason u) : Project.Confined (writtenPlaces u [(i, reason)]) t u := by
  cases reason with
  | some f => exact h.refusal.mono (Set.empty_subset _)
  | none =>
    obtain ⟨g, v, p, -, -, hp, hc, -⟩ := h.writing
    refine hc.mono ?_
    rintro q rfl
    exact ⟨(i, none), List.mem_singleton_self _, rfl, hp⟩

lemma Accounts.confined (h : Accounts gives t results u) : Project.Confined (writtenPlaces u results) t u := by
  induction h with
  | nil t => exact Project.Confined.refl _ t
  | @cons t u v i reason rest hi hrest ih =>
    refine (hi.confined.mono ?_).trans (ih.mono ?_)
    · rintro p ⟨x, hx, hnone, hp⟩
      rw [List.mem_singleton.1 hx] at hnone hp
      exact ⟨(i, reason), List.mem_cons_self, hnone, ih.place hp⟩
    · rintro p ⟨x, hx, hnone, hp⟩
      exact ⟨x, List.mem_cons_of_mem _ hx, hnone, hp⟩

lemma Apart.not_mem (h : Apart u ((i :: results.map Prod.fst))) {p : Place} (hp : u.place i.localPath = .ok p) :
    p ∉ writtenPlaces u results := by
  rintro ⟨x, hx, -, hq⟩
  exact (List.pairwise_cons.1 h).1 x.1 (List.mem_map_of_mem hx) p hp hq

lemma Accounts.written (h : Accounts gives t results u) (hd : Apart u (results.map Prod.fst)) :
    ∀ x ∈ results, x.2 = none → Written gives u x.1 := by
  induction h with
  | nil t => simp
  | @cons t u v i reason rest hi hrest ih =>
    rintro x hx hnone
    rcases List.mem_cons.1 hx with rfl | hx
    · obtain rfl : reason = none := hnone
      obtain ⟨g, w, p, hg, hl, hp, -, hf⟩ := hi.writing
      have hplace : v.place i.localPath = .ok p := hrest.confined.place hp
      exact ⟨g, w, p, hg, hl, hplace, hrest.confined.file p _ (hd.not_mem hplace) hf⟩
    · exact ih (List.pairwise_cons.1 hd).2 x hx hnone

end Trees

section Runs

variable {gives : String → Except Failure Group → Prop} {i : SecretInfo} {s s' : Session σ π}

lemma project_group (k : Context σ π) (token name : String) (s : Session σ π) :
    ((Action.group k token name).result s).2.project = s.project := rfl

lemma settles_of_pullContent {r : Except Failure Unit} (h : (pullContent k token i).result s = (r, s'))
    (hg : gives i.groupPath ((Action.group k token i.groupPath).result s).1) :
    ∃ reason, Settles gives s.project i reason s'.project ∧ r = reason.elim (.ok ()) .error := by
  have hproject := project_group k token i.groupPath s
  rw [pullContent] at h
  rcases hgroup : (Action.group k token i.groupPath).result s with ⟨f | g, s₁⟩
  · rw [hgroup] at hg hproject
    have hr : (resolve k token i).result s = (.error f, s₁) := resolve_of_group hgroup
    rw [result_bind_error hr] at h
    cases h
    exact ⟨some f, hproject ▸ .noGroup hg, rfl⟩
  · rw [hgroup] at hg hproject
    have hp : s₁.project = s.project := hproject
    have hr := resolve_of_group hgroup
    simp only [Except.bind] at hr
    cases hl : g.lookup i.name with
    | none =>
      rw [hl] at hr
      rw [result_bind_error hr] at h
      cases h
      refine ⟨some (.problem (.invalidSecretPath i.annotatedFile.toString i.raw)), ?_, rfl⟩
      rw [hp]
      exact .noKey hg hl
    | some v =>
      rw [hl] at hr
      rw [result_bind_ok hr, result_put, hp] at h
      rcases hput : s.project.put i.localPath (utf8 v) with ⟨u, _ | e⟩
      · rw [hput] at h
        cases h
        exact ⟨none, .written hg hl hput, rfl⟩
      · rw [hput] at h
        cases h
        exact ⟨some (.file e), .refused hg hl hput, rfl⟩

/-- The run can go on after a secret: there is no reason, or one that is local and can be shown. -/
def Passes (root : Path) (x : SecretInfo × Option Failure) : Prop :=
  ∀ f, x.2 = some f → isLocal f = true ∧ Renders (notCreatedLine root x.1.localPath f.message)

structure Answers (root : Path) (i : SecretInfo) (reason : Option Failure) (r : Except Failure (Option String)) :
    Prop where
  passes : (∃ o, r = .ok o) ↔ Passes root (i, reason)
  value : ∀ o, r = .ok o → o = reason.map Failure.message

structure AnswersEach (root : Path) (is : List SecretInfo) (results : List (SecretInfo × Option Failure))
    (r : Except Failure (List (Path × Option String))) : Prop where
  front : results.map Prod.fst <+: is
  passes : (∃ out, r = .ok out) ↔ ∀ x ∈ results, Passes root x
  value : ∀ out, r = .ok out → results.map Prod.fst = is ∧
    out = results.map fun x => (x.1.localPath, x.2.map Failure.message)

section Answers

variable {reason : Option Failure} {is : List SecretInfo} {results : List (SecretInfo × Option Failure)}

lemma Answers.ok (h : Passes root (i, reason)) : Answers root i reason (.ok (reason.map Failure.message)) where
  passes := iff_of_true ⟨_, rfl⟩ h
  value := fun _ ho => (Except.ok.inj ho).symm

lemma Answers.error (h : ¬ Passes root (i, reason)) (f : Failure) : Answers root i reason (.error f) where
  passes := iff_of_false (by rintro ⟨o, ⟨⟩⟩) h
  value := by rintro o ⟨⟩

lemma AnswersEach.nil : AnswersEach root [] [] (.ok []) where
  front := List.prefix_rfl
  passes := iff_of_true ⟨[], rfl⟩ (List.forall_mem_nil _)
  value := fun _ hout => ⟨rfl, (Except.ok.inj hout).symm⟩

lemma AnswersEach.stopped {f : Failure} (h : Answers root i reason (.error f)) (is : List SecretInfo) :
    AnswersEach root (i :: is) [(i, reason)] (.error f) where
  front := ⟨is, rfl⟩
  passes := by
    rw [List.forall_mem_singleton, ← h.passes]
    exact iff_of_false (by rintro ⟨out, ⟨⟩⟩) (by rintro ⟨o, ⟨⟩⟩)
  value := by rintro out ⟨⟩

lemma AnswersEach.cons {o : Option String} {r : Except Failure (List (Path × Option String))}
    (h : Answers root i reason (.ok o)) (hrest : AnswersEach root is results r) :
    AnswersEach root (i :: is) ((i, reason) :: results) (r.map ((i.localPath, o) :: ·)) where
  front := (List.prefix_cons_inj i).2 hrest.front
  passes := by
    rw [List.forall_mem_cons, ← h.passes, ← hrest.passes]
    cases r <;> simp [Except.map]
  value := by
    rintro out hout
    obtain rfl := h.value o rfl
    cases r with
    | error f => cases hout
    | ok rest =>
      obtain ⟨hall, rfl⟩ := hrest.value rest rfl
      cases hout
      exact ⟨congrArg (i :: ·) hall, rfl⟩

end Answers

lemma answers_of_pullSays {reason : Option Failure} {r : Except Failure (Option String)}
    (h : (pullSays k root i (reason.elim (.ok ()) .error)).result s = (r, s'))
    (hlocal : ∀ f, reason = some f → isLocal f = true) : s'.project = s.project ∧ Answers root i reason r := by
  cases reason with
  | none =>
    obtain ⟨shown, hshown⟩ := createdLine_renders root i.localPath
    obtain ⟨printed, hp⟩ := printMarkup_ok hshown k.width s
    simp only [pullSays, Option.elim_none] at h
    rw [result_bind_ok hp] at h
    cases h
    exact ⟨rfl, .ok fun f hf => by cases hf⟩
  | some f =>
    simp only [pullSays, Option.elim_some] at h
    rcases hm : Markup.render (notCreatedLine root i.localPath f.message) with u | shown
    · have hp : (printMarkup k.width _).result s = _ := printMarkup_error hm s
      rw [result_bind_error hp] at h
      cases h
      refine ⟨rfl, .error ?_ _⟩
      intro hpass
      obtain ⟨-, shown, hshown⟩ := hpass f rfl
      rw [hm] at hshown
      cases hshown
    · obtain ⟨printed, hp⟩ := printMarkup_ok hm k.width s
      rw [result_bind_ok hp] at h
      cases h
      refine ⟨rfl, .ok ?_⟩
      rintro own ⟨⟩
      exact ⟨hlocal f rfl, shown, hm⟩

lemma settles_of_pullOne {r : Except Failure (Option String)} (h : (pullOne k token root i).result s = (r, s'))
    (hg : gives i.groupPath ((Action.group k token i.groupPath).result s).1) :
    ∃ reason, Settles gives s.project i reason s'.project ∧ Answers root i reason r := by
  rw [pullOne_eq] at h
  rcases hc : (pullContent k token i).result s with ⟨r₁, s₁⟩
  obtain ⟨reason, hsettles, rfl⟩ := settles_of_pullContent hc hg
  by_cases hlocal : ∀ f, reason = some f → isLocal f = true
  · have ha : (attempt isLocal (pullContent k token i)).result s = (.ok (reason.elim (.ok ()) .error), s₁) := by
      rw [result_attempt, hc]
      cases reason with
      | none => rfl
      | some f => simp [hlocal f rfl]
    rw [result_bind_ok ha] at h
    obtain ⟨hproject, hanswers⟩ := answers_of_pullSays h hlocal
    exact ⟨reason, hproject ▸ hsettles, hanswers⟩
  · push Not at hlocal
    obtain ⟨f, rfl, hf⟩ := hlocal
    have ha : (attempt isLocal (pullContent k token i)).result s = (.error f, s₁) := by
      rw [result_attempt, hc]
      simp [hf]
    rw [result_bind_error ha] at h
    cases h
    exact ⟨some f, hsettles, .error (fun hpass => hf (hpass f rfl).1) f⟩

lemma pullEach_accounts (gives : String → Except Failure Group → Prop) {P F : Session σ π → Prop}
    (ho : Outward (Itself P) F) {is : List SecretInfo}
    (hgroup : ∀ i ∈ is, Along (Itself P) F (Action.group k token i.groupPath))
    (hgives : ∀ i ∈ is, ∀ s, P s → F ((Action.group k token i.groupPath).result s).2 →
      gives i.groupPath ((Action.group k token i.groupPath).result s).1)
    {r : Except Failure (List (Path × Option String))} (hs : P s)
    (h : (pullEach k token root is).result s = (r, s')) (hF : F s') :
    ∃ results, Accounts gives s.project results s'.project ∧ AnswersEach root is results r := by
  induction is generalizing s r with
  | nil =>
    cases h
    exact ⟨[], .nil _, .nil⟩
  | cons i is ih =>
    obtain ⟨hi, his⟩ := List.forall_mem_cons.1 hgroup
    obtain ⟨hgi, hgis⟩ := List.forall_mem_cons.1 hgives
    have hone : ∀ {r₁ s₁}, (pullOne k token root i).result s = (r₁, s₁) → F s₁ →
        P s₁ ∧ ∃ reason, Settles gives s.project i reason s₁.project ∧ Answers root i reason r₁ := by
      intro r₁ s₁ h₁ hF₁
      have hend : F ((pullOne k token root i).result s).2 := by rwa [h₁]
      have hP := ((pullOne_along ho hi).same ⟨rfl, hs⟩ hend).2.2
      rw [h₁] at hP
      exact ⟨hP, settles_of_pullOne h₁ (hgi s hs (after_lookup ho hend))⟩
    rcases h₁ : (pullOne k token root i).result s with ⟨f | o, s₁⟩
    · rw [pullEach, result_bind_error h₁] at h
      cases h
      obtain ⟨-, reason, hsettles, hanswers⟩ := hone h₁ hF
      exact ⟨[(i, reason)], .cons hsettles (.nil _), .stopped hanswers is⟩
    · rcases h₂ : (pullEach k token root is).result s₁ with ⟨r₂, s₂⟩
      rw [pullEach, result_bind_ok h₁, result_bind_pure, h₂] at h
      cases h
      have hrest : Along (Itself P) F (pullEach k token root is) := pullEach_along ho his
      have hF₁ : F s₁ := hrest.back (by rwa [h₂])
      obtain ⟨hs₁, reason, hsettles, hanswers⟩ := hone h₁ hF₁
      obtain ⟨results, haccounts, heach⟩ := ih his hgis hs₁ h₂
      exact ⟨(i, reason) :: results, .cons hsettles haccounts, .cons hanswers heach⟩

end Runs

def Outcome.ofResults (x : Extraction) (results : List (SecretInfo × Option Failure)) : Outcome :=
  { Outcome.ofExtraction x with
    written := results.filterMap fun y => if y.2.isNone then some y.1.localPath else none
    failures := (Outcome.ofExtraction x).failures ++
      results.filterMap fun y => y.2.map fun f => (y.1.localPath, f.message) }

lemma pull_of_pullEach {x : Extraction} {s s₁ : Session σ π} (hx : (discover k root).result s = (.ok x, s₁))
    (ht : requireToken k.settings.token = .ok token) :
    ((pull k root).result s).2 = ((pullEach k token root x.secrets).result s₁).2 ∧
      ((∃ o, ((pull k root).result s).1 = .ok o) ↔ ∃ out, ((pullEach k token root x.secrets).result s₁).1 = .ok out) ∧
      ∀ results : List (SecretInfo × Option Failure), ((pullEach k token root x.secrets).result s₁).1 =
          .ok (results.map fun y => (y.1.localPath, y.2.map Failure.message)) →
        ((pull k root).result s).1 = .ok (Outcome.ofResults x results) := by
  have htoken : (Sync.token k).result s₁ = (.ok token, s₁) := by
    rw [Sync.token, result_lift, ht]
    rfl
  rw [pull, result_bind_ok hx, result_bind_ok htoken]
  rcases hp : (pullEach k token root x.secrets).result s₁ with ⟨e | out, s'⟩
  · rw [result_bind_error hp]
    simp
  · rw [result_bind_ok hp]
    refine ⟨rfl, iff_of_true ⟨_, rfl⟩ ⟨out, rfl⟩, ?_⟩
    rintro results hr
    cases hr
    simp only [result_pure, List.filterMap_map, Outcome.ofResults, Function.comp_def, Option.isNone_map, Option.map_map]

lemma accounts_of_pull (gives : String → Except Failure Group → Prop) {P F : Session σ π → Prop}
    (ho : Outward (Itself P) F) (ht : requireToken k.settings.token = .ok token) {x : Extraction}
    {s s₁ : Session σ π} (hx : (discover k root).result s = (.ok x, s₁))
    (hgroup : ∀ i ∈ x.secrets, Along (Itself P) F (Action.group k token i.groupPath))
    (hgives : ∀ i ∈ x.secrets, ∀ s, P s → F ((Action.group k token i.groupPath).result s).2 →
      gives i.groupPath ((Action.group k token i.groupPath).result s).1)
    (hs : P s₁) (hF : F ((pull k root).result s).2) :
    let run := (pull k root).result s
    P run.2 ∧ ∃ results, Accounts gives s.project results run.2.project ∧ results.map Prod.fst <+: x.secrets ∧
      ((∃ o, run.1 = .ok o) ↔ ∀ y ∈ results, Passes root y) ∧
      ∀ o, run.1 = .ok o → results.map Prod.fst = x.secrets ∧ o = Outcome.ofResults x results := by
  intro run
  obtain ⟨hafter, hends, hout⟩ := pull_of_pullEach hx ht
  rcases hp : (pullEach k token root x.secrets).result s₁ with ⟨r, s'⟩
  rw [hp] at hafter hends hout
  obtain rfl : run.2 = s' := hafter
  obtain ⟨results, haccounts, heach⟩ := pullEach_accounts gives ho hgroup hgives hs hp hF
  have hP : P run.2 := by
    have hsame := ((pullEach_along ho hgroup).same ⟨rfl, hs⟩ (by rwa [hp])).2.2
    rwa [hp] at hsame
  refine ⟨hP, results, project_discover hx ▸ haccounts, heach.front, hends.trans heach.passes, fun o ho => ?_⟩
  obtain ⟨out, hr⟩ := hends.1 ⟨o, ho⟩
  obtain ⟨hall, rfl⟩ := heach.value out hr
  exact ⟨hall, Except.ok.inj (ho.symm.trans (hout results hr))⟩

section Transcribed

variable {t : Project} {s₀ : σ} {p₀ : π} {x : Extraction} {s₁ : Session (σ × List Exchange) π}

def Missing (s : Session σ π) : Prop :=
  ∀ name p, s.cache.answer? name = some (.error p) → p.isSecretNotFound = true

lemma isStore_of_isSecretNotFound (p : Problem) (h : p.isSecretNotFound = true) : p.isStore = true := by
  rcases p with ⟨kind, _, _⟩ | _ | _
  · cases kind <;> first | rfl | cases h
  · cases h
  · cases h

lemma isLocal_of_isSecretNotFound {p : Problem} (h : p.isSecretNotFound = true) : isLocal (.problem p) = true := by
  cases p with
  | invalidSecretPath _ _ => rfl
  | plain _ _ _ => exact h
  | storeResponse _ _ => cases h

lemma group_missing (hr : k.store.Responds Problem.isSecretNotFound) (c : Cache) (name : String) :
    Along (Itself Missing) (Within c) (Action.group k token name) := by
  have hstore := hr.mono isStore_of_isSecretNotFound
  refine ⟨within_of_group hstore, ?_⟩
  rintro s u ⟨rfl, hs⟩ -
  refine ⟨rfl, rfl, ?_⟩
  cases hn : u.cache.answer? name with
  | some a => rwa [group_of_known hn]
  | none =>
    obtain ⟨records, hg⟩ := group_of_unknown k token hn
    obtain ⟨a, ha, hp⟩ := hr u.store token name
    rw [hg]
    intro key p hk
    rcases Cache.answer?_of_note hk with hold | ⟨-, hnew⟩
    · exact hs key p hold
    · rw [ha] at hnew
      cases a with
      | error own =>
        cases hnew
        exact hp _ rfl
      | ok g => cases hnew

lemma outward_missing (c : Cache) : Outward (Itself (Missing (σ := σ) (π := π))) (Within c) where
  project h := by rw [h.1]
  prompter h := by rw [h.1]
  printed h := by rw [h.1]
  moved t p lines xs h := ⟨by rw [h.1], h.2⟩
  back _ _ _ _ h := h

lemma Apart.not_written {results : List (SecretInfo × Option Failure)} {y : SecretInfo × Option Failure}
    (h : Apart t (results.map Prod.fst)) (hy : y ∈ results) (hne : y.2 ≠ none) {p : Place}
    (hp : t.place y.1.localPath = .ok p) : p ∉ writtenPlaces t results := by
  rintro ⟨z, hz, hnone, hq⟩
  rw [Apart, List.pairwise_map] at h
  have : Std.Symm fun y z : SecretInfo × Option Failure =>
      ∀ p, t.place y.1.localPath = .ok p → t.place z.1.localPath ≠ .ok p :=
    ⟨fun y z hyz p hz hy => hyz p hy hz⟩
  have hyz : y ≠ z := by
    rintro rfl
    exact hne hnone
  exact h.forall hy hz hyz p hp hq

def Gave (token : String) (s : Session (σ × List Exchange) π) (name : String) (a : Except Failure Group) : Prop :=
  .fetch token name a ∈ s.store.2

lemma Asks.gave_iff {names : List String} {s : Session (σ × List Exchange) π} (h : Asks token names s)
    {name : String} {a : Except Failure Group} :
    Gave token s name a ↔ ∃ b, s.cache.answer? name = some b ∧ a = b.mapError Failure.problem :=
  h.mem_iff.trans (and_iff_right rfl)

lemma Asks.gave_unique {names : List String} {s : Session (σ × List Exchange) π} (h : Asks token names s)
    {name : String} {a b : Except Failure Group} (ha : Gave token s name a) (hb : Gave token s name b) : a = b := by
  obtain ⟨a', ha', rfl⟩ := h.gave_iff.1 ha
  obtain ⟨b', hb', rfl⟩ := h.gave_iff.1 hb
  rw [Option.some.inj (ha'.symm.trans hb')]

lemma Missing.of_gave {names : List String} {s : Session (σ × List Exchange) π} (h : Missing s)
    (ha : Asks token names s) {name : String} {f : Failure} (hf : Gave token s name (.error f)) :
    ∃ p : Problem, f = .problem p ∧ p.isSecretNotFound = true := by
  obtain ⟨b, hb, he⟩ := ha.gave_iff.1 hf
  cases b with
  | ok g => cases he
  | error p =>
    cases he
    exact ⟨p, rfl, h name p hb⟩

lemma pull_settles (hr : k.store.Responds Problem.isSecretNotFound)
    (ht : requireToken k.settings.token = .ok token)
    (hx : (discover k.transcribed root).result (.start t (s₀, []) p₀) = (.ok x, s₁)) :
    let run := (pull k.transcribed root).result (.start t (s₀, []) p₀)
    Missing run.2 ∧ ∃ results, Accounts (Gave token run.2) t results run.2.project ∧
      results.map Prod.fst <+: x.secrets ∧ ((∃ o, run.1 = .ok o) ↔ ∀ y ∈ results, Passes root y) ∧
      ∀ o, run.1 = .ok o → results.map Prod.fst = x.secrets ∧ o = Outcome.ofResults x results := by
  intro run
  have hstore := hr.mono isStore_of_isSecretNotFound
  obtain ⟨names, hasks, -⟩ := run_asks hstore root .pull t s₀ p₀ ht
  have hs₁ : Missing s₁ := by
    have hu := unasked_discover k.transcribed root (.start t (s₀, []) p₀)
    rw [hx] at hu
    intro name p ha
    rw [hu.2] at ha
    cases ha
  -- what is known is never forgotten, so each lookup gave what is known in the end
  have hgroups : ∀ i ∈ x.secrets,
      Along (Itself Missing) (Within run.2.cache) (Action.group k.transcribed token i.groupPath) :=
    fun i _ => group_missing hr.transcribed run.2.cache i.groupPath
  have hlookups : ∀ i ∈ x.secrets, ∀ s, Missing s →
      Within run.2.cache ((Action.group k.transcribed token i.groupPath).result s).2 →
      Gave token run.2 i.groupPath ((Action.group k.transcribed token i.groupPath).result s).1 := by
    intro i _ s _ hF
    obtain ⟨a, c, v, records, hg, ha, -⟩ :=
      known_of_group (k := k.transcribed) hstore.transcribed token i.groupPath s
    rw [hg] at hF ⊢
    exact hasks.gave_iff.2 ⟨a, hF _ a ha, rfl⟩
  have hwithin : Within run.2.cache run.2 := fun _ _ ha => ha
  have ho := outward_missing (σ := σ × List Exchange) (π := π) run.2.cache
  exact accounts_of_pull (Gave token run.2) ho ht hx hgroups hlookups hs₁ hwithin

/-- A pull on a store that gives a group or does not have it settles the secrets in their order, each
by what the store gave. What was written is there in the end, all other files are as they were, and
the pull ends well exactly if each line about a secret that was left out can be shown. -/
theorem pull_accounts (hr : k.store.Responds Problem.isSecretNotFound)
    (ht : requireToken k.settings.token = .ok token)
    (hx : (discover k.transcribed root).result (.start t (s₀, []) p₀) = (.ok x, s₁))
    (hn : ∀ i ∈ x.secrets, ¬ i.localPath.HasNul)
    (hd : Apart ((pull k.transcribed root).result (.start t (s₀, []) p₀)).2.project x.secrets) :
    let run := (pull k.transcribed root).result (.start t (s₀, []) p₀)
    ∃ results, Accounts (Gave token run.2) t results run.2.project ∧ results.map Prod.fst <+: x.secrets ∧
      (∀ name a b, Gave token run.2 name a → Gave token run.2 name b → a = b) ∧
      (∀ name f, Gave token run.2 name (.error f) → ∃ p : Problem, f = .problem p ∧ p.isSecretNotFound = true) ∧
      (∀ y ∈ results, y.2 = none → Written (Gave token run.2) run.2.project y.1) ∧
      (∀ p, p ∉ writtenPlaces run.2.project results → ∀ content,
        run.2.project.entryAt p = some (.file content) ↔ t.entryAt p = some (.file content)) ∧
      (∀ y ∈ results, y.2 ≠ none → ∀ p, run.2.project.place y.1.localPath = .ok p →
        p ∉ writtenPlaces run.2.project results) ∧
      ((∃ o, run.1 = .ok o) ↔
        ∀ y ∈ results, ∀ f, y.2 = some f → Renders (notCreatedLine root y.1.localPath f.message)) ∧
      ∀ o, run.1 = .ok o → results.map Prod.fst = x.secrets ∧ o = Outcome.ofResults x results := by
  intro run
  obtain ⟨names, hasks, -⟩ := run_asks (hr.mono isStore_of_isSecretNotFound) root .pull t s₀ p₀ ht
  obtain ⟨hmissing, results, haccounts, hfront, hpass, hok⟩ := pull_settles hr ht hx
  have hapart : Apart run.2.project (results.map Prod.fst) := hd.sublist hfront.sublist
  have hnul : ∀ y ∈ results, ¬ y.1.localPath.HasNul := fun y hy => hn y.1 (hfront.subset (List.mem_map_of_mem hy))
  have herrors : ∀ name f, Gave token run.2 name (.error f) →
      ∃ p : Problem, f = .problem p ∧ p.isSecretNotFound = true := fun name f hf => hmissing.of_gave hasks hf
  -- a missing group, a missing key and a refused file are all local, so the run goes on after each
  have hlocal : ∀ y ∈ results, ∀ f, y.2 = some f → isLocal f = true := by
    refine haccounts.local_of_some (fun name e he => ?_) hnul
    obtain ⟨p, rfl, hp⟩ := herrors name e he
    exact isLocal_of_isSecretNotFound hp
  refine ⟨results, haccounts, hfront, fun name a b => hasks.gave_unique, herrors, haccounts.written hapart,
    fun p hp content => haccounts.confined.file_iff hp content,
    fun y hy hne p hp => hapart.not_written hy hne hp, hpass.trans ?_, hok⟩
  refine forall₂_congr fun y hy => forall₂_congr fun f hf => ?_
  exact and_iff_right (hlocal y hy f hf)

end Transcribed

section Small

def shelf : SecretStore (List (String × Group)) where
  fetch gs _ name := (pure (Memory.fetch ⟨gs, []⟩ name), gs)
  update gs _ name data := (pure (.ok ()), Json.put gs name (((gs.lookup name).getD []).merge data))

lemma shelf_responds : shelf.Responds Problem.isSecretNotFound := by
  intro gs token name
  cases hg : gs.lookup name with
  | some g =>
    refine ⟨.ok g, ?_, fun p he => by cases he⟩
    change Memory.fetch ⟨gs, []⟩ name = _
    simp [Memory.fetch, hg, Except.mapError]
  | none =>
    refine ⟨.error .secretNotFound, ?_, fun p he => ?_⟩
    · change Memory.fetch ⟨gs, []⟩ name = _
      simp [Memory.fetch, hg, Except.mapError]
    · cases he
      rfl

lemma extract_oneSecret :
    (Manifest.extract manifestPath (manifestOf "vault:secret/g#k" "out.txt")).value = .ok [oneSecret] := by
  decide +kernel

theorem pull_accounts_of_missing_key :
    let k := (Context.plain shelf).transcribed
    let run := (pull k manifestPath).result (.start oneFile ([("g", [("m", "v")])], []) ())
    shelf.Responds Problem.isSecretNotFound ∧ ∃ x s₁ results,
      (discover k manifestPath).result (.start oneFile ([("g", [("m", "v")])], []) ()) = (.ok x, s₁) ∧
      x.secrets = [oneSecret] ∧ Accounts (Gave "tok" run.2) oneFile results run.2.project ∧
      ∀ y ∈ results, y.2 = none → Written (Gave "tok" run.2) run.2.project y.1 := by
  intro k run
  obtain ⟨s₁, hx⟩ := discover_under k (by decide) extract_oneSecret
    (show (Session.start oneFile ([("g", [("m", "v")])], []) ()).project = Project.under _ [] from rfl)
  obtain ⟨results, haccounts, -, -, -, hwritten, -⟩ := pull_accounts shelf_responds rfl hx
    (fun i hi => by
      obtain rfl := List.mem_singleton.1 hi
      rw [← Project.place_eq_nul_iff (t := oneFile)]
      decide) (List.pairwise_singleton _ _)
  exact ⟨shelf_responds, _, s₁, results, hx, rfl, haccounts, hwritten⟩

def bracketed : Path := ⟨.relative, ["y]", ".wukong.toml"]⟩

def bracketedFile : Project :=
  ⟨[], [(["y]"], .directory), (["y]", ".wukong.toml"], .file (utf8 (manifestOf "vault:secret/g#k" "x[/b")))]⟩

theorem pull_stopped_by_refusal :
    let k := (Context.plain shelf).transcribed
    let start : Session (List (String × Group) × List Exchange) Unit :=
      .start bracketedFile ([("g", [("m", "v")])], []) ()
    shelf.Responds Problem.isSecretNotFound ∧ requireToken k.settings.token = .ok "tok" ∧
      ((discover k bracketed).result start).1.map Extraction.secrets =
        .ok [⟨"k", ⟨"vault", "secret", "g", "k"⟩, "x[/b", "vault:secret/g#k", "bunker", "generic", bracketed⟩] ∧
      ((pull k bracketed).result start).1.map Outcome.isSuccess = .error (.unexpected "MarkupError" "") := by
  intro k start
  have hrun : ((discover k bracketed).result start).1.map Extraction.secrets =
        .ok [⟨"k", ⟨"vault", "secret", "g", "k"⟩, "x[/b", "vault:secret/g#k", "bunker", "generic", bracketed⟩] ∧
      ((pull k bracketed).result start).1.map Outcome.isSuccess = .error (.unexpected "MarkupError" "") := by
    decide +kernel
  exact ⟨shelf_responds, rfl, hrun⟩

end Small

end Sync

end ConfigKeeper
