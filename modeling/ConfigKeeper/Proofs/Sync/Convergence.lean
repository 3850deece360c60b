import ConfigKeeper.Proofs.Store.Maps
import ConfigKeeper.Proofs.Sync.Comparison
import ConfigKeeper.Proofs.Sync.Found
import ConfigKeeper.Proofs.Sync.SingleUpdate

/-!
Pushes one after the other on a store that nobody else changes. A push sends old values of the other
keys of its group along, and these are the values that are there. So each push settles its own entry and
no other, and after as many pushes as entries nothing is left.
-/

namespace ConfigKeeper.Sync

open Sync.Action

variable {σ π : Type} {k : Context σ π} {root : Path} {token : String} {t : Project}
variable {content : σ → String → Except Failure Group}

section Replaces

variable {before after : String → Except Failure Group} {d : Drift} {i : SecretInfo}

/-- The content is as before, with the local text of an entry in the place of its value. -/
structure Replaces (before after : String → Except Failure Group) (d : Drift) : Prop where
  own : ∃ g, before d.secret.groupPath = .ok g ∧ after d.secret.groupPath = .ok (g.merge (d.sent g))
  others : ∀ name, name ≠ d.secret.groupPath → after name = before name

def AllDistinct (content : String → Except Failure Group) : Prop := ∀ name g, content name = .ok g → Json.Distinct g

namespace Replaces

variable (h : Replaces before after d)

include h

lemma distinct (hd : AllDistinct before) : AllDistinct after := by
  intro name g hg
  by_cases hn : name = d.secret.groupPath
  · subst hn
    obtain ⟨own, hown, hafter⟩ := h.own
    rw [hafter] at hg
    cases hg
    exact (hd _ own hown).putAll _
  · exact hd name g (by rwa [h.others name hn] at hg)

lemma value?_own (hd : AllDistinct before) : value? after d.secret = some d.localText := by
  obtain ⟨g, hg, hafter⟩ := h.own
  rw [value?, hafter]
  simp only [SecretInfo.name, lookup_merge_sent d (hd _ g hg), if_true]

lemma value?_other (hd : AllDistinct before) (hne : (i.groupPath, i.name) ≠ (d.secret.groupPath, d.secret.name)) :
    value? after i = value? before i := by
  by_cases hn : i.groupPath = d.secret.groupPath
  · obtain ⟨g, hg, hafter⟩ := h.own
    have hname : i.name ≠ d.secret.name := fun he => hne (by rw [hn, he])
    rw [value?, value?, hn, hafter, hg]
    simp only [lookup_merge_sent d (hd _ g hg), if_neg hname]
    cases g.lookup i.name <;> rfl
  · rw [value?, value?, h.others _ hn]

lemma isSome_value? (hd : AllDistinct before) (hv : (value? before i).isSome = true) :
    (value? after i).isSome = true := by
  by_cases hne : (i.groupPath, i.name) = (d.secret.groupPath, d.secret.name)
  · rw [Prod.mk.injEq] at hne
    have hsame : value? after i = value? after d.secret := by rw [value?, value?, hne.1, hne.2]
    rw [hsame, h.value?_own hd]
    rfl
  · rwa [h.value?_other hd hne]

lemma comparable (hd : AllDistinct before) (hc : Comparable before t i) : Comparable after t i := by
  cases hc with
  | absent ha => exact .absent ha
  | there ha hr hv =>
    obtain ⟨v, hv'⟩ := Option.isSome_iff_exists.1 (h.isSome_value? hd (by rw [hv]; rfl))
    exact .there ha hr hv'

lemma driftOf?_own (hd : AllDistinct before) (hdrift : driftOf? before t d.secret = some d) :
    driftOf? after t d.secret = none := by
  obtain ⟨-, hthere, hread, -, -⟩ := driftOf?_eq_some_iff.1 hdrift
  rw [driftOf?_of_there hthere hread (h.value?_own hd), if_pos rfl]

lemma driftOf?_other (hd : AllDistinct before)
    (hne : (i.groupPath, i.name) ≠ (d.secret.groupPath, d.secret.name)) :
    driftOf? after t i = driftOf? before t i := by
  rw [driftOf?, driftOf?, h.value?_other hd hne]

end Replaces

lemma filterMap_erase {f f' : SecretInfo → Option Drift} (hf : ∀ i e, f i = some e → e.secret = i)
    (hnone : f' d.secret = none) (hd : f d.secret = some d) {is : List SecretInfo} (hn : is.Nodup)
    (hsame : ∀ i ∈ is, i ≠ d.secret → f' i = f i) : is.filterMap f' = (is.filterMap f).erase d := by
  induction is with
  | nil => rfl
  | cons i is ih =>
    obtain ⟨hi, hn⟩ := List.nodup_cons.1 hn
    obtain ⟨hsi, hsis⟩ := List.forall_mem_cons.1 hsame
    by_cases he : i = d.secret
    · subst he
      have hrest : is.filterMap f' = is.filterMap f :=
        List.filterMap_congr fun j hj => hsis j hj fun he => hi (he ▸ hj)
      rw [List.filterMap_cons_none hnone, List.filterMap_cons_some hd, List.erase_cons_head, hrest]
    · cases hfi : f i with
      | none => rw [List.filterMap_cons_none ((hsi he).trans hfi), List.filterMap_cons_none hfi, ih hn hsis]
      | some e =>
        have hne : e ≠ d := by
          rintro rfl
          exact he (hf i e hfi).symm
        rw [List.filterMap_cons_some ((hsi he).trans hfi), List.filterMap_cons_some hfi,
          List.erase_cons_tail (by simpa using hne), ih hn hsis]

end Replaces

section Push

lemma steady_of_maps (hm : k.store.Maps content) (s : σ) :
    k.Steady (content s) fun v => content v = content s where
  answer name _ hv := by rw [hm.fetch, hv]
  stays name _ hv := by rw [hm.stays, hv]

lemma replaces_of_approves (hm : k.store.Maps content) {s : σ} {p : π} {a : Approval} {u : Session σ π}
    (h : Approves k root (.start t s p) a u) :
    Replaces (content s) (content ((push k root).result (.start t s p)).2.store) a.entry := by
  have hk := steady_of_maps hm s
  obtain ⟨s₁, hv, hu⟩ := h.unmoved
  have h₁ : Informed (content s) (fun v => content v = content s) t s₁ :=
    survey_invariant (quiet_informed t) (group_informed hk h.token t) (informed_start t p rfl) hv
  obtain ⟨-, -, g, hg, -⟩ := h.backed
  have hcontent : content s a.entry.secret.groupPath = .ok g := by
    rw [hu.cache] at hg
    exact (h₁.known _ _ hg).symm
  have hstore : content u.store = content s := by rw [hu.store, h₁.store]
  obtain ⟨-, hpushed, -⟩ := push_sends h hg
  rw [← hstore] at hcontent ⊢
  rw [hpushed]
  exact ⟨⟨g, hcontent, hm.merges _ _ hcontent⟩, fun name hn => hm.others _ _ hcontent hn⟩

/-- What each run meets: the files can be compared, and each group has a key once at most. -/
structure Ready (content : σ → String → Except Failure Group) (t : Project) (is : List SecretInfo) (s : σ) :
    Prop where
  comparable : ∀ i ∈ is, Comparable (content s) t i
  distinct : AllDistinct (content s)

lemma Ready.transcribed {is : List SecretInfo} {s : σ} (h : Ready content t is s) :
    Ready (fun v : σ × List Exchange => content v.1) t is (s, []) := ⟨h.comparable, h.distinct⟩

def drifts (content : σ → String → Except Failure Group) (t : Project) (is : List SecretInfo) (s : σ) : List Drift :=
  is.filterMap (driftOf? (content s) t)

lemma survey_of_ready (hm : k.store.Maps content) (ht : requireToken k.settings.token = .ok token) {s : σ} {p : π}
    {x : Extraction} {s₁ : Session σ π} (hx : (discover k root).result (.start t s p) = (.ok x, s₁))
    (hs : Ready content t x.secrets s) :
    ∃ u, (survey k root).result (.start t s p) = (.ok ⟨x, token, drifts content t x.secrets s⟩, u) := by
  obtain ⟨u, hu, -⟩ := survey_comparable (steady_of_maps hm s) ht (informed_start t p rfl) hx hs.comparable
  exact ⟨u, hu⟩

lemma drifts_after_push (hm : k.store.Maps content) (ht : requireToken k.settings.token = .ok token) {s : σ} {p : π}
    {x : Extraction} {s₁ u : Session σ π} (hx : (discover k root).result (.start t s p) = (.ok x, s₁))
    (hs : Ready content t x.secrets s) (hd : (x.secrets.map fun i => (i.groupPath, i.name)).Nodup) {a : Approval}
    (h : Approves k root (.start t s p) a u) :
    let s' := ((push k root).result (.start t s p)).2.store
    a.entry ∈ drifts content t x.secrets s ∧ Ready content t x.secrets s' ∧
      drifts content t x.secrets s' = (drifts content t x.secrets s).erase a.entry := by
  intro s'
  have hr : Replaces (content s) (content s') a.entry := replaces_of_approves hm h
  have hmem : a.entry ∈ drifts content t x.secrets s := by
    obtain ⟨v, hv⟩ := survey_of_ready hm ht hx hs
    obtain ⟨s₂, s₃, s₄, hown, hp, -⟩ := h
    rw [hv] at hown
    have hsame : (⟨x, token, drifts content t x.secrets s⟩ : Survey) = a.survey :=
      Except.ok.inj (congrArg Prod.fst hown)
    have hpicked := hp.mem
    rwa [← hsame] at hpicked
  obtain ⟨i, hi, hdrift⟩ := List.mem_filterMap.1 hmem
  obtain ⟨rfl, -⟩ := driftOf?_eq_some_iff.1 hdrift
  refine ⟨hmem, ⟨fun i hi => hr.comparable hs.distinct (hs.comparable i hi), hr.distinct hs.distinct⟩, ?_⟩
  refine filterMap_erase (fun i e he => (driftOf?_eq_some_iff.1 he).1) (hr.driftOf?_own hs.distinct hdrift) hdrift
    hd.of_map fun j hj hne => hr.driftOf?_other hs.distinct fun he => hne ?_
  exact List.inj_on_of_nodup_map hd hj hi he

end Push

section Series

/-- A push in which an entry is confirmed, and the state of the store after it. -/
def Confirmed (k : Context σ π) (root : Path) (t : Project) (s : σ) (d : Drift) (s' : σ) : Prop :=
  ∃ p a u, Approves k.transcribed root (.start t (s, []) p) a u ∧ a.entry = d ∧
    ((push k.transcribed root).result (.start t (s, []) p)).2.store.1 = s'

inductive Series (k : Context σ π) (root : Path) (t : Project) : σ → List Drift → σ → Prop
  | nil (s : σ) : Series k root t s [] s
  | cons {s s₁ s₂ : σ} {d : Drift} {ds : List Drift} :
      Confirmed k root t s d s₁ → Series k root t s₁ ds s₂ → Series k root t s (d :: ds) s₂

variable {x : Extraction} {s : σ}

lemma confirmed_step (hm : k.store.Maps content) (ht : requireToken k.settings.token = .ok token)
    (hx : ∀ s p, ∃ u, (discover k.transcribed root).result (.start t (s, []) p) = (.ok x, u))
    (hs : Ready content t x.secrets s) (hd : (x.secrets.map fun i => (i.groupPath, i.name)).Nodup) {d : Drift} {s' : σ}
    (h : Confirmed k root t s d s') :
    d ∈ drifts content t x.secrets s ∧ Ready content t x.secrets s' ∧
      drifts content t x.secrets s' = (drifts content t x.secrets s).erase d := by
  obtain ⟨p, a, u, ha, rfl, rfl⟩ := h
  obtain ⟨s₁, hx⟩ := hx s p
  obtain ⟨hmem, hready, hsame⟩ := drifts_after_push (k := k.transcribed) hm.transcribed ht hx hs.transcribed hd ha
  exact ⟨hmem, ⟨hready.comparable, hready.distinct⟩, hsame⟩

lemma series_run (hm : k.store.Maps content) (ht : requireToken k.settings.token = .ok token)
    (hx : ∀ s p, ∃ u, (discover k.transcribed root).result (.start t (s, []) p) = (.ok x, u))
    (hd : (x.secrets.map fun i => (i.groupPath, i.name)).Nodup) {es : List Drift} {s' : σ}
    (h : Series k root t s es s') (hs : Ready content t x.secrets s) :
    Ready content t x.secrets s' ∧ es.Subperm (drifts content t x.secrets s) ∧
      drifts content t x.secrets s' = (drifts content t x.secrets s).diff es := by
  induction h with
  | nil s => exact ⟨hs, List.nil_subperm, List.diff_nil _⟩
  | @cons s s₁ s₂ d ds hone _ ih =>
    obtain ⟨hmem, hready, herase⟩ := confirmed_step hm ht hx hs hd hone
    obtain ⟨hready, hsub, hleft⟩ := ih hready
    rw [herase] at hsub hleft
    refine ⟨hready, ?_, hleft.trans (List.diff_cons _ _ _).symm⟩
    exact ((List.subperm_cons d).2 hsub).trans (List.perm_cons_erase hmem).symm.subperm

lemma diff_self (ds : List Drift) : ds.diff ds = [] := by
  induction ds with
  | nil => rfl
  | cons d ds ih => rw [List.diff_cons, List.erase_cons_head, ih]

lemma pushDrifted_nil (k : Context σ π) (token : String) (root : Path) :
    pushDrifted k token root [] = (sayPlain k upToDate >>= fun _ => pure none) := rfl

lemma push_of_nothing {p : π} {u : Session (σ × List Exchange) π}
    (hv : (survey k.transcribed root).result (.start t (s, []) p) = (.ok ⟨x, token, []⟩, u)) :
    let run := (push k.transcribed root).result (.start t (s, []) p)
    run.1 = .ok (Outcome.ofSurvey ⟨x, token, []⟩ none) ∧ updates run.2.store.2 = [] ∧
      ∃ lines, Report.markupLines k.width upToDate.toList = .ok lines ∧ lines <:+ run.2.printed := by
  intro run
  obtain ⟨shown, hshown⟩ := Console.Markup.render_of_no_bracket (show '[' ∉ upToDate.toList by decide)
  have hlines : Report.markupLines k.width upToDate.toList = .ok (Console.wrap k.width shown) := by
    rw [Report.markupLines, hshown]
    rfl
  have hsay : (sayPlain k.transcribed upToDate).result u =
      (.ok (), { u with printed := u.printed ++ Console.wrap k.width shown }) := by
    have hlift : (Action.lift ((Report.markupLines k.width upToDate.toList).mapError Report.ofMarkup)).result u =
        (.ok (Console.wrap k.width shown), u) := by
      rw [result_lift, hlines]
      rfl
    exact (result_bind_ok hlift _).trans rfl
  have hrun : run = (.ok (Outcome.ofSurvey ⟨x, token, []⟩ none),
      { u with printed := u.printed ++ Console.wrap k.width shown }) := by
    change (push k.transcribed root).result _ = _
    rw [push_eq_survey_bind, result_bind_ok hv, pushDrifted_nil, bind_assoc, result_bind_ok hsay]
    rfl
  have hsilent : updates u.store.2 = [] := by
    have hu : Untouched t ((survey k.transcribed root).result (.start t (s, []) p)).2 := survey_start_untouched
    rw [hv] at hu
    exact hu.2
  rw [hrun]
  exact ⟨rfl, hsilent, _, hlines, List.suffix_append _ _⟩

end Series

section Agreeing

variable {store : SecretStore σ} {x : Extraction} {s : σ}

lemma confirmed_of_agreeing {d : Drift} {ds : List Drift} {u : Session (σ × List Exchange) Unit}
    (hv : (survey (Context.plain store).transcribed root).result (.start t (s, []) ()) = (.ok ⟨x, token, d :: ds⟩, u)) :
    ∃ s', Confirmed (Context.plain store) root t s d s' := by
  have hpicks : ∃ s₂, Picks (Context.plain store).transcribed root u (d :: ds) d s₂ := by
    by_cases hl : (d :: ds).length = 1
    · obtain rfl : ds = [] := List.length_eq_zero_iff.1 (Nat.succ.inj hl)
      obtain ⟨printed, hp⟩ := sayPlain_ok (show '[' ∉ onlyOne.toList by decide) (Context.plain store).transcribed u
      exact ⟨_, .only hp⟩
    · exact ⟨_, .listed (n := 0) hl rfl rfl⟩
  obtain ⟨s₂, hpick⟩ := hpicks
  obtain ⟨printed, hr⟩ := render_ok (Context.plain store).transcribed root d s₂
  exact ⟨_, (), ⟨⟨x, token, d :: ds⟩, d⟩, _, ⟨u, s₂, _, hv, hpick, hr, rfl⟩, rfl, rfl⟩

lemma exists_series (hm : store.Maps content)
    (hx : ∀ s p, ∃ u, (discover (Context.plain store).transcribed root).result (.start t (s, []) p) = (.ok x, u))
    (hd : (x.secrets.map fun i => (i.groupPath, i.name)).Nodup) (hs : Ready content t x.secrets s) :
    ∃ s', Series (Context.plain store) root t s (drifts content t x.secrets s) s' := by
  induction hds : drifts content t x.secrets s generalizing s with
  | nil => exact ⟨s, .nil s⟩
  | cons d ds ih =>
    obtain ⟨u, hu⟩ := hx s ()
    obtain ⟨v, hv⟩ := survey_of_ready (k := (Context.plain store).transcribed) hm.transcribed rfl hu hs.transcribed
    have hfound : drifts (fun v : σ × List Exchange => content v.1) t x.secrets (s, []) = d :: ds := hds
    rw [hfound] at hv
    obtain ⟨s₁, hone⟩ := confirmed_of_agreeing hv
    obtain ⟨-, hs₁, hleft⟩ := confirmed_step (k := Context.plain store) hm rfl hx hs hd hone
    rw [hds, List.erase_cons_head] at hleft
    obtain ⟨s', hrest⟩ := ih hs₁ hleft
    exact ⟨s', .cons hone hrest⟩

end Agreeing

/-- On a store of groups that nobody else changes, let each local file be absent, or readable with its
value in the store, and let no two secrets have the same name in the same group. After a confirmed push
of an entry a fresh run finds the same entries without that one; after any series of confirmed pushes it
finds those that were not sent; and once there were as many as entries, nothing is left and a further
push sends nothing. -/
theorem pushes_converge (hm : k.store.Maps content) (ht : requireToken k.settings.token = .ok token) {s : σ} {p₀ : π}
    {x : Extraction} {s₁ : Session (σ × List Exchange) π}
    (hx : (discover k.transcribed root).result (.start t (s, []) p₀) = (.ok x, s₁))
    (hc : ∀ i ∈ x.secrets, Comparable (content s) t i) (hg : AllDistinct (content s))
    (hd : (x.secrets.map fun i => (i.groupPath, i.name)).Nodup) :
    let finds := fun s ds => ∀ p, ∃ u,
      (survey k.transcribed root).result (.start t (s, []) p) = (.ok ⟨x, token, ds⟩, u)
    ∃ ds, finds s ds ∧
      (∀ d s', Confirmed k root t s d s' → d ∈ ds ∧ finds s' (ds.erase d)) ∧
      (∀ es s', Series k root t s es s' → es.Subperm ds ∧ finds s' (ds.diff es)) ∧
      ∀ es s', Series k root t s es s' → es.length = ds.length → finds s' [] ∧ ∀ p,
        let run := (push k.transcribed root).result (.start t (s', []) p)
        run.1 = .ok (Outcome.ofSurvey ⟨x, token, []⟩ none) ∧ updates run.2.store.2 = [] ∧
          ∃ lines, Report.markupLines k.width upToDate.toList = .ok lines ∧ lines <:+ run.2.printed := by
  intro finds
  have hx : ∀ s p, ∃ u, (discover k.transcribed root).result (.start t (s, []) p) = (.ok x, u) := fun _ _ =>
    discover_again hx rfl
  have hs : Ready content t x.secrets s := ⟨hc, hg⟩
  have hfinds : ∀ {s}, Ready content t x.secrets s → finds s (drifts content t x.secrets s) := by
    intro s hs p
    obtain ⟨u, hx⟩ := hx s p
    exact survey_of_ready (k := k.transcribed) hm.transcribed ht hx hs.transcribed
  refine ⟨drifts content t x.secrets s, hfinds hs, ?_, ?_, ?_⟩
  · intro d s' h
    obtain ⟨hmem, hs', hleft⟩ := confirmed_step hm ht hx hs hd h
    exact ⟨hmem, hleft ▸ hfinds hs'⟩
  · intro es s' h
    obtain ⟨hs', hsub, hleft⟩ := series_run hm ht hx hd h hs
    exact ⟨hsub, hleft ▸ hfinds hs'⟩
  · intro es s' h hl
    obtain ⟨hs', hsub, hleft⟩ := series_run hm ht hx hd h hs
    -- each push takes one entry out, so as many pushes as there are entries take out all of them
    have hempty : drifts content t x.secrets s' = [] := by
      rw [hleft, List.Perm.diff_left _ (hsub.perm_of_length_le hl.ge), diff_self]
    have hnothing : finds s' [] := hempty ▸ hfinds hs'
    refine ⟨hnothing, fun p => ?_⟩
    obtain ⟨u, hu⟩ := hnothing p
    exact push_of_nothing hu

section Small

def twoManifest : String :=
  manifestOf "vault:secret/g#k" "a.txt" ++ manifestOf "vault:secret/g#m" "b.txt"

def twoFiles : Project :=
  Project.under twoManifest [(["a.txt"], .file (utf8 "new\n")), (["b.txt"], .file (utf8 "other\n"))]

def secretOf (name destination : String) : SecretInfo :=
  ⟨name, ⟨"vault", "secret", "g", name⟩, destination, "vault:secret/g#" ++ name, "bunker", "generic", manifestPath⟩

def twoSecrets : List SecretInfo := [secretOf "k" "a.txt", secretOf "m" "b.txt"]

def twoKeys : Memory := ⟨[("g", [("k", "old\n"), ("m", "old\n")])], []⟩

lemma allDistinct_of_groups {m : Memory} (h : ∀ x ∈ m.groups, Json.Distinct x.2) : AllDistinct m.fetch := by
  intro name g hg
  exact h _ (Association.mem_of_lookup (Memory.lookup_of_fetch hg))

lemma comparable_of_file {content : String → Except Failure Group} {i : SecretInfo} {p : Place} {text v : String}
    (hp : t.place i.localPath = .ok p) (he : t.entryAt p = some (.file (utf8 text))) (hr : '\r' ∉ text.toList)
    (hv : value? content i = some v) :
    Comparable content t i ∧ driftOf? content t i = if v = text then none else some ⟨i, v, text⟩ := by
  have hthere := Project.isPresent_eq hp he
  have hread := Project.readSource_of_text hp he hr
  exact ⟨.there hthere hread hv, driftOf?_of_there hthere hread hv⟩

theorem pushes_converge_of_two : ∃ es s',
    Series (Context.plain Memory.store) manifestPath twoFiles twoKeys es s' ∧ es.map Drift.secret = twoSecrets ∧
      updates ((push (Context.plain Memory.store).transcribed manifestPath).result
        (.start twoFiles (s', []) ())).2.store.2 = [] := by
  have hextract : (Manifest.extract manifestPath twoManifest).value = .ok twoSecrets := by decide +kernel
  have hx : ∀ s p, ∃ u, (discover (Context.plain Memory.store).transcribed manifestPath).result
      (.start twoFiles (s, []) p) = (.ok ⟨[(manifestPath, twoSecrets)], []⟩, u) := fun _ _ =>
    discover_under _ (by decide +kernel) hextract rfl
  have hg : AllDistinct twoKeys.fetch := allDistinct_of_groups (by decide)
  have hv₁ : value? twoKeys.fetch (secretOf "k" "a.txt") = some "old\n" := by decide +kernel
  have hv₂ : value? twoKeys.fetch (secretOf "m" "b.txt") = some "old\n" := by decide +kernel
  have hp₁ : twoFiles.place (secretOf "k" "a.txt").localPath = .ok ["a.txt"] := by decide +kernel
  have hp₂ : twoFiles.place (secretOf "m" "b.txt").localPath = .ok ["b.txt"] := by decide +kernel
  have hf₁ : twoFiles.entryAt ["a.txt"] = some (.file (utf8 "new\n")) := rfl
  have hf₂ : twoFiles.entryAt ["b.txt"] = some (.file (utf8 "other\n")) := rfl
  obtain ⟨hc₁, hdrift₁⟩ := comparable_of_file hp₁ hf₁ (by decide) hv₁
  obtain ⟨hc₂, hdrift₂⟩ := comparable_of_file hp₂ hf₂ (by decide) hv₂
  have hc : ∀ i ∈ twoSecrets, Comparable twoKeys.fetch twoFiles i := by
    simp only [twoSecrets, List.forall_mem_cons]
    exact ⟨hc₁, hc₂, by simp⟩
  have hd : (twoSecrets.map fun i => (i.groupPath, i.name)).Nodup := by decide
  have hfound : drifts Memory.fetch twoFiles twoSecrets twoKeys =
      [⟨secretOf "k" "a.txt", "old\n", "new\n"⟩, ⟨secretOf "m" "b.txt", "old\n", "other\n"⟩] := by
    rw [drifts, twoSecrets, List.filterMap_cons_some hdrift₁, List.filterMap_cons_some hdrift₂, List.filterMap_nil]
  obtain ⟨s', hseries⟩ := exists_series Memory.maps hx hd ⟨hc, hg⟩
  obtain ⟨u, hu⟩ := hx twoKeys ()
  obtain ⟨ds, hds, -, -, hends⟩ :=
    pushes_converge (k := Context.plain Memory.store) Memory.maps rfl hu hc hg hd
  have hsame : drifts Memory.fetch twoFiles twoSecrets twoKeys = ds := by
    obtain ⟨v, hv⟩ := survey_of_ready (k := (Context.plain Memory.store).transcribed) Memory.maps.transcribed rfl hu
      ⟨hc, hg⟩
    obtain ⟨w, hw⟩ := hds ()
    rw [hv] at hw
    exact congrArg Survey.drifted (Except.ok.inj (congrArg Prod.fst hw))
  refine ⟨_, s', hseries, ?_, (hends _ s' hseries (congrArg List.length hsame)).2 () |>.2.1⟩
  change (drifts Memory.fetch twoFiles twoSecrets twoKeys).map Drift.secret = twoSecrets
  rw [hfound]
  rfl

end Small

end ConfigKeeper.Sync
