import ConfigKeeper.Proofs.Project.Growth
import ConfigKeeper.Proofs.Sync.Comparison
import ConfigKeeper.Proofs.Text.Utf8
import ConfigKeeper.Store.Memory

/-!
What a pull has written is read again. The reader takes a carriage return for a line end, so the
values without one are exactly those that come back as they are.
-/

namespace ConfigKeeper.Sync

open Sync.Action Console

variable {σ π : Type} {k : Context σ π} {root : Path} {token : String}
variable {content : String → Except Failure Group} {here : σ → Prop}

def Holds (content : String → Except Failure Group) (t : Project) (i : SecretInfo) : Prop :=
  ∃ v p, value? content i = some v ∧ t.place i.localPath = .ok p ∧ t.entryAt p = some (.file (utf8 v))

section Pull

lemma ok_of_attempt {α : Type} {p : Failure → Bool} {a : Action σ π α} {s s' : Session σ π} {x : α}
    (h : (attempt p a).result s = (.ok (.ok x), s')) : a.result s = (.ok x, s') := by
  rw [result_attempt] at h
  rcases ha : a.result s with ⟨e | y, s₁⟩
  · rw [ha, Prod.mk.injEq] at h
    obtain ⟨h, -⟩ := h
    split at h <;> cases h
  · rw [ha] at h
    cases h
    rfl

lemma ok_of_writeFile {path : Path} {bytes : List UInt8} {s s' : Session σ π}
    (h : (Action.writeFile path bytes).result s = (.ok (), s')) :
    ∃ t, Project.Grows ∅ s.project t ∧ t.writeFile path bytes = .ok s'.project ∧
      s'.store = s.store ∧ s'.cache = s.cache := by
  have hg := Project.ensureDirectory_grows s.project path.parent
  rw [result_writeFile] at h
  rcases hd : s.project.ensureDirectory path.parent with ⟨t, _ | e⟩
  · rw [hd] at h hg
    simp only at h
    cases hw : t.writeFile path bytes with
    | error e =>
      rw [hw] at h
      cases h
    | ok u =>
      rw [hw] at h
      cases h
      exact ⟨t, hg, hw, rfl, rfl⟩
  · rw [hd] at h
    cases h

variable (hk : k.Steady content here) (ht : requireToken k.settings.token = .ok token)

include hk ht

lemma ok_of_pullOne {t : Project} {i : SecretInfo} {s s' : Session σ π} (hs : Informed content here t s)
    (h : (pullOne k token root i).result s = (.ok none, s')) :
    Informed content here s'.project s' ∧ ∃ v u, value? content i = some v ∧ Project.Grows ∅ t u ∧
      u.writeFile i.localPath (utf8 v) = .ok s'.project := by
  obtain ⟨r, s₃, ha, h⟩ := ok_of_bind h
  rcases r with f | ⟨⟩
  · obtain ⟨_, _, _, h⟩ := ok_of_bind h
    cases h
  · obtain ⟨v, s₁, hr, hw⟩ := ok_of_bind (ok_of_attempt ha)
    obtain ⟨_, s₄, hp, h⟩ := ok_of_bind h
    cases h
    have h₁ : Informed content here t s₁ := (resolve_informed hk ht t i).ok hs hr
    obtain ⟨u, hg, hw, hst, hc⟩ := ok_of_writeFile hw
    have h₃ : Informed content here s₃.project s₃ := ⟨rfl, hst ▸ h₁.store, hc ▸ h₁.known⟩
    have h₄ : Informed content here s₃.project s' := ((quiet_informed _).printMarkup _ _).ok h₃ hp
    have hproject : s'.project = s₃.project := h₄.project
    refine ⟨hproject ▸ h₄, v, u, value?_of_resolve hk ht hs hr, h₁.project ▸ hg, ?_⟩
    rw [hw, hproject]

lemma holds_of_pullEach {is : List SecretInfo} {t : Project} {s s' : Session σ π}
    {results : List (Path × Option String)} (hs : Informed content here t s)
    (h : (pullEach k token root is).result s = (.ok results, s')) (hr : ∀ r ∈ results, r.2 = none)
    (hd : (is.map fun i => s'.project.place i.localPath).Nodup) :
    Informed content here s'.project s' ∧ (∀ i ∈ is, Holds content s'.project i) ∧
      Project.Grows {p | ∃ i ∈ is, s'.project.place i.localPath = .ok p} t s'.project := by
  induction is generalizing t s results with
  | nil =>
    cases h
    rw [hs.project]
    exact ⟨hs, by simp, Project.Grows.refl _ t⟩
  | cons i is ih =>
    obtain ⟨reason, s₁, hi, h⟩ := ok_of_bind h
    obtain ⟨rest, s₂, hrest, h⟩ := ok_of_bind h
    rw [result_pure, Prod.mk.injEq, Except.ok.injEq] at h
    obtain ⟨rfl, rfl⟩ := h
    obtain rfl : reason = none := hr _ List.mem_cons_self
    obtain ⟨h₁, v, u, hv, hu, hw⟩ := ok_of_pullOne hk ht hs hi
    obtain ⟨hni, hnd⟩ := List.nodup_cons.1 hd
    obtain ⟨h₂, hh, hg⟩ := ih h₁ hrest (fun r hm => hr r (List.mem_cons_of_mem _ hm)) hnd
    obtain ⟨p, hp, hgp, hep⟩ := Project.writeFile_ok hw
    -- the other secrets are at other places, so the file written first is still as it was
    have hplace : s₂.project.place i.localPath = .ok p := hg.place (hgp.place hp)
    have hfresh : p ∉ {p | ∃ i ∈ is, s₂.project.place i.localPath = .ok p} := by
      rintro ⟨j, hj, hpj⟩
      exact hni (List.mem_map.2 ⟨j, hj, hpj.trans hplace.symm⟩)
    refine ⟨h₂, ?_, ?_⟩
    · rintro j hj
      rcases List.mem_cons.1 hj with rfl | hj
      · exact ⟨v, p, hv, hplace, hg.file p _ hfresh hep⟩
      · exact hh j hj
    · have hi : Project.Grows {p | ∃ j ∈ i :: is, s₂.project.place j.localPath = .ok p} t s₁.project := by
        refine (hu.mono (Set.empty_subset _)).trans (hgp.mono ?_)
        rintro q rfl
        exact ⟨i, List.mem_cons_self, hplace⟩
      refine hi.trans (hg.mono ?_)
      rintro q ⟨j, hj, hq⟩
      exact ⟨j, List.mem_cons_of_mem i hj, hq⟩

omit hk ht in
lemma ok_of_pull {s s' : Session σ π} {o : Outcome} (h : (pull k root).result s = (.ok o, s')) :
    ∃ x s₁ token results, (discover k root).result s = (.ok x, s₁) ∧
      requireToken k.settings.token = .ok token ∧
      (pullEach k token root x.secrets).result s₁ = (.ok results, s') ∧
      (o.isSuccess = true → ∀ r ∈ results, r.2 = none) := by
  obtain ⟨x, s₁, hx, h₁⟩ := ok_of_bind h
  obtain ⟨token, s₂, ht, h₂⟩ := ok_of_bind h₁
  obtain ⟨results, s₃, hr, h₃⟩ := ok_of_bind h₂
  rw [result_pure, Prod.mk.injEq, Except.ok.injEq] at h₃
  obtain ⟨rfl, rfl⟩ := h₃
  obtain ⟨htoken, rfl⟩ := ok_of_token ht
  refine ⟨x, _, token, results, hx, htoken, hr, fun ho r hm => ?_⟩
  rw [Outcome.isSuccess, List.isEmpty_iff, List.append_eq_nil_iff, List.filterMap_eq_nil_iff] at ho
  exact Option.map_eq_none_iff.1 (ho.2 r hm)

end Pull

section Diff

def reread? (content : String → Except Failure Group) (i : SecretInfo) : Option Drift :=
  (value? content i).bind fun v =>
    if '\r' ∈ v.toList then some ⟨i, v, String.ofList (Text.unifyNewlines v.toList)⟩ else none

lemma isPresent_of_holds {t : Project} {i : SecretInfo} (h : Holds content t i) :
    t.isPresent i.localPath = .ok true := by
  obtain ⟨v, p, -, hp, he⟩ := h
  exact Project.isPresent_eq hp he

lemma readSource_of_holds {t : Project} {i : SecretInfo} {v : String} (h : Holds content t i)
    (hv : value? content i = some v) :
    (t.readSource i.localPath).value = .ok (String.ofList (Text.unifyNewlines v.toList)) := by
  obtain ⟨w, p, hw, hp, he⟩ := h
  obtain rfl : v = w := Option.some.inj (hv.symm.trans hw)
  have hr : t.readText i.localPath = .ok (String.ofList (Text.unifyNewlines v.toList)) := by
    rw [Project.readText, Project.readFile_eq hp he]
    simp only [utf8, textOfBytes_encodeUtf8]
  rw [Project.readSource, hr]
  rfl

lemma comparable_of_holds {t : Project} {i : SecretInfo} (h : Holds content t i) : Comparable content t i := by
  obtain ⟨v, _, hv, -, -⟩ := id h
  exact .there (isPresent_of_holds h) (readSource_of_holds h hv) hv

lemma driftOf?_of_holds {t : Project} {i : SecretInfo} (h : Holds content t i) :
    driftOf? content t i = reread? content i := by
  obtain ⟨v, _, hv, -, -⟩ := id h
  have hsame : v = String.ofList (Text.unifyNewlines v.toList) ↔ '\r' ∉ v.toList := by
    rw [← String.toList_inj, String.toList_ofList, eq_comm, Text.unifyNewlines_eq_iff]
  rw [driftOf?_of_there (isPresent_of_holds h) (readSource_of_holds h hv) hv, reread?, hv, Option.bind_some]
  simp only [hsame, ite_not]

lemma survey_of_holds {t : Project} (hk : k.Steady content here) (ht : requireToken k.settings.token = .ok token)
    {s s₁ : Session σ π} (hs : Informed content here t s) {x : Extraction}
    (hx : (discover k root).result s = (.ok x, s₁)) (h : ∀ i ∈ x.secrets, Holds content t i) :
    ∃ s', (survey k root).result s = (.ok ⟨x, token, x.secrets.filterMap (reread? content)⟩, s') := by
  obtain ⟨s', hv, -⟩ := survey_comparable hk ht hs hx fun i hi => comparable_of_holds (h i hi)
  refine ⟨s', ?_⟩
  rw [hv, List.filterMap_congr fun i hi => driftOf?_of_holds (h i hi)]

lemma renderEach_ok (k : Context σ π) (root : Path) (ds : List Drift) (s : Session σ π) :
    ∃ s', (renderEach k root ds).result s = (.ok (), s') := by
  induction ds generalizing s with
  | nil => exact ⟨s, rfl⟩
  | cons d ds ih =>
    obtain ⟨printed, hr⟩ : ∃ printed, (render k root d).result s = (.ok (), { s with printed := printed }) :=
      ⟨_, rfl⟩
    obtain ⟨s', h⟩ := ih { s with printed := printed }
    exact ⟨s', by rw [renderEach, result_bind_ok hr, h]⟩

lemma diff_of_survey {s s' : Session σ π} {v : Survey} (h : (survey k root).result s = (.ok v, s')) :
    ∃ o s₂, (diff k root).result s = (.ok o, s₂) ∧ o.drifted = v.drifted := by
  obtain ⟨printed, hp⟩ := sayPlain_ok
    (show '[' ∉ "The config files are up to date with the Vault Bunker.".toList by decide) k s'
  rw [diff_eq_survey_bind, result_bind_ok h]
  by_cases he : v.drifted.isEmpty = true
  · obtain ⟨s₂, hr⟩ := renderEach_ok k root v.drifted { s' with printed := printed }
    refine ⟨{ Outcome.ofExtraction v.extraction with drifted := v.drifted }, s₂, ?_, rfl⟩
    rw [if_pos he, result_bind_ok hp, result_bind_ok hr]
    rfl
  · obtain ⟨s₂, hr⟩ := renderEach_ok k root v.drifted s'
    refine ⟨{ Outcome.ofExtraction v.extraction with drifted := v.drifted }, s₂, ?_, rfl⟩
    rw [if_neg he]
    exact (result_bind_ok hr _).trans rfl

end Diff

def holdsReturn (content : String → Except Failure Group) (i : SecretInfo) : Bool :=
  (value? content i).any fun v => '\r' ∈ v.toList

lemma secrets_reread (content : String → Except Failure Group) (is : List SecretInfo) :
    (is.filterMap (reread? content)).map Drift.secret = is.filter (holdsReturn content) := by
  induction is with
  | nil => rfl
  | cons i is ih =>
    rw [List.filterMap_cons, List.filter_cons, ← ih, reread?, holdsReturn]
    cases value? content i with
    | none => rfl
    | some v => by_cases hr : '\r' ∈ v.toList <;> simp [hr]

lemma steady_memory (m : Memory) : (Context.plain Memory.store).Steady m.fetch (· = m) := by
  constructor
  · rintro token s name - rfl
    rfl
  · rintro token s name - rfl
    rfl

def oneFile : Project := projectOf "vault:secret/g#k" "out.txt" []

def oneSecret : SecretInfo :=
  ⟨"k", ⟨"vault", "secret", "g", "k"⟩, "out.txt", "vault:secret/g#k", "bunker", "generic", manifestPath⟩

def storeOf (value : String) : Memory := ⟨[("g", [("k", value)])], []⟩

def pullOf (value : String) : Except Failure Outcome × Session Memory Unit :=
  (pull (Context.plain Memory.store) manifestPath).result (.start oneFile (storeOf value) ())

def nextOf (value : String) : Session Memory Unit := .start (pullOf value).2.project (pullOf value).2.store ()

abbrev Pulled (value : String) : Prop :=
  ((discover (Context.plain Memory.store) manifestPath).result
      (.start oneFile (storeOf value) ())).1.map Extraction.secrets = .ok [oneSecret] ∧
    (pullOf value).1.map Outcome.isSuccess = .ok true ∧
    ((discover (Context.plain Memory.store) manifestPath).result (nextOf value)).1.map Extraction.secrets =
      .ok [oneSecret] ∧
    ([oneSecret].map fun i => (pullOf value).2.project.place i.localPath).Nodup

/-- After a pull that went well a difference goes well too, if the same secrets are found and they
belong to different files. It shows the secrets whose values hold a carriage return and no others. -/
theorem drifted_after_pull {t : Project} {s₀ : σ} {p₀ p₁ : π} {is : List SecretInfo} {o : Outcome}
    {after : Session σ π} (hk : k.Steady content here) (hs : here s₀)
    (hfound : ((discover k root).result (.start t s₀ p₀)).1.map Extraction.secrets = .ok is)
    (hpull : (pull k root).result (.start t s₀ p₀) = (.ok o, after)) (ho : o.isSuccess = true)
    (hagain : ((discover k root).result (.start after.project after.store p₁)).1.map Extraction.secrets = .ok is)
    (hd : (is.map fun i => after.project.place i.localPath).Nodup) :
    ∃ o' s', (diff k root).result (.start after.project after.store p₁) = (.ok o', s') ∧
      o'.drifted.map Drift.secret = is.filter (holdsReturn content) ∧
      (o'.drifted = [] ↔ ∀ i ∈ is, ∀ v, value? content i = some v → '\r' ∉ v.toList) := by
  obtain ⟨x', hx', hsame⟩ := ok_of_map hagain
  obtain ⟨x, s₁, token, results, hx, ht, hr, hsuccess⟩ := ok_of_pull hpull
  obtain rfl : x.secrets = is := by
    rw [hx] at hfound
    exact Except.ok.inj hfound
  have h₁ : Informed content here t s₁ :=
    (discover_keeps (quiet_informed t)).ok (informed_start t p₀ hs) hx
  obtain ⟨hafter, hh, -⟩ := holds_of_pullEach hk ht h₁ hr (hsuccess ho) hd
  -- each file holds its value now, so the second run reads back what the first one wrote
  obtain ⟨s₃, hv⟩ := survey_of_holds hk ht (informed_start after.project p₁ hafter.store) hx'
    (fun i hi => hh i (hsame ▸ hi))
  obtain ⟨o', s', hdiff, hdrifted⟩ := diff_of_survey hv
  have hsecrets : o'.drifted.map Drift.secret = x.secrets.filter (holdsReturn content) := by
    rw [hdrifted, hsame, secrets_reread]
  refine ⟨o', s', hdiff, hsecrets, ?_⟩
  rw [← List.map_eq_nil_iff (f := Drift.secret), hsecrets, List.filter_eq_nil_iff]
  refine forall₂_congr fun i hi => ?_
  rw [holdsReturn]
  cases value? content i <;> simp

theorem drifted_after_pull_of_lines :
    Pulled "a\nb" ∧ ∃ o s',
      (diff (Context.plain Memory.store) manifestPath).result (nextOf "a\nb") = (.ok o, s') ∧ o.drifted = [] := by
  have hrun : Pulled "a\nb" ∧ [oneSecret].filter (holdsReturn (storeOf "a\nb").fetch) = [] := by decide +kernel
  obtain ⟨⟨hfound, hpull, hagain, hd⟩, hfilter⟩ := hrun
  obtain ⟨o, ho, hsuccess⟩ := ok_of_map hpull
  obtain ⟨o', s', hdiff, hdrifted, -⟩ := drifted_after_pull (steady_memory _) rfl hfound ho hsuccess hagain hd
  exact ⟨⟨hfound, hpull, hagain, hd⟩, o', s', hdiff, List.map_eq_nil_iff.1 (hdrifted.trans hfilter)⟩

theorem drifted_after_pull_of_return :
    Pulled "a\r\nb" ∧ ((diff (Context.plain Memory.store) manifestPath).result (nextOf "a\r\nb")).1.map
      (fun o => o.drifted.map Drift.secret) = .ok [oneSecret] := by
  decide +kernel

end ConfigKeeper.Sync
