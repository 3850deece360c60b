import ConfigKeeper.Proofs.Sync.Approval
import ConfigKeeper.Proofs.Sync.Transcript

/-!
A push sends at most one update. It sends one exactly if it is approved, and that update is the
group as the run fetched it with the local text in the place of one value.
-/

namespace ConfigKeeper.Sync

open Sync.Action Console

variable {σ π : Type} {k : Context σ π} {root : Path}

/-- What is sent for an entry: its group as it was fetched, with the local text put in. -/
def Drift.sent (d : Drift) (g : Group) : Group := g.merge [(d.secret.name, d.localText)]

def Renders (text : List Char) : Prop := ∃ shown, Markup.render text = .ok shown

lemma lookup_sent (d : Drift) (g : Group) (key : String) :
    (d.sent g).lookup key = if key = d.secret.name then some d.localText else g.lookup key :=
  Group.lookup_merge_single g d.secret.name d.localText key

lemma lookup_merge_sent (d : Drift) {g : Group} (hd : Json.Distinct g) (base : Group) (key : String) :
    (base.merge (d.sent g)).lookup key =
      if key = d.secret.name then some d.localText else (g.lookup key).or (base.lookup key) := by
  have hsent : Json.Distinct (d.sent g) := hd.put d.secret.name d.localText
  rw [Group.merge_eq_putAll, Json.lookup_putAll hsent, lookup_sent]
  split <;> rfl

lemma result_update (k : Context σ π) (token name : String) (data : Group) (s : Session σ π) :
    ∃ records, (Action.update k token name data).result s =
      ((k.store.update s.store token name data).1.value,
        { s with store := (k.store.update s.store token name data).2, records := records }) := ⟨_, rfl⟩

lemma send_of_known {s : Session σ π} {d : Drift} {g : Group} (token : String)
    (hg : s.cache.answer? d.secret.groupPath = some (.ok g)) :
    (send k token root d).result s = (do
      Action.update k token d.secret.groupPath (d.sent g)
      Action.note (Logged.info "sync" ("Pushed " ++ d.secret.name ++ " to " ++ d.secret.groupPath))
      Action.printMarkup k.width (pushedLine root d.secret)).result s :=
  result_bind_ok (group_of_known hg) _

lemma send_of_refused (root : Path) {s : Session σ π} {d : Drift} {g : Group} {token : String} {e : Failure}
    (hg : s.cache.answer? d.secret.groupPath = some (.ok g))
    (hv : (k.store.update s.store token d.secret.groupPath (d.sent g)).1.value = .error e) :
    ∃ records, (send k token root d).result s = (.error e,
      { s with store := (k.store.update s.store token d.secret.groupPath (d.sent g)).2, records := records }) := by
  obtain ⟨records, hu⟩ := result_update k token d.secret.groupPath (d.sent g) s
  rw [hv] at hu
  exact ⟨records, by rw [send_of_known token hg, result_bind_error hu]⟩

lemma send_of_accepted (root : Path) {s : Session σ π} {d : Drift} {g : Group} {token : String}
    (hg : s.cache.answer? d.secret.groupPath = some (.ok g))
    (hv : (k.store.update s.store token d.secret.groupPath (d.sent g)).1.value = .ok ()) :
    ∃ records, (send k token root d).result s = (printMarkup k.width (pushedLine root d.secret)).result
      { s with store := (k.store.update s.store token d.secret.groupPath (d.sent g)).2, records := records } := by
  obtain ⟨records, hu⟩ := result_update k token d.secret.groupPath (d.sent g) s
  rw [hv] at hu
  obtain ⟨logged, hn⟩ := result_note
    (Logged.info "sync" ("Pushed " ++ d.secret.name ++ " to " ++ d.secret.groupPath))
    { s with store := (k.store.update s.store token d.secret.groupPath (d.sent g)).2, records := records }
  exact ⟨logged, by rw [send_of_known token hg, result_bind_ok hu, result_bind_ok hn]⟩

lemma push_sends {s s' : Session σ π} {a : Approval} {g : Group} (h : Approves k root s a s')
    (hg : s'.cache.answer? a.entry.secret.groupPath = some (.ok g)) :
    let answered := k.store.update s'.store a.survey.token a.entry.secret.groupPath (a.entry.sent g)
    let r := (push k root).result s
    r.2.project = s'.project ∧ r.2.store = answered.2 ∧ (reported? r.1 = some a.entry.secret ↔
      answered.1.value = .ok () ∧ Renders (pushedLine root a.entry.secret)) := by
  intro answered r
  have hr : r = _ := push_of_approves h
  rcases hv : answered.1.value with e | ⟨⟩
  · obtain ⟨records, hs⟩ := send_of_refused root hg hv
    rw [hr, result_bind_error hs]
    simp [reported?, answered]
  · obtain ⟨records, hs⟩ := send_of_accepted root hg hv
    rcases hm : Markup.render (pushedLine root a.entry.secret) with u | shown
    · rw [printMarkup_error hm] at hs
      rw [hr, result_bind_error hs]
      simp [reported?, answered, Renders, hm]
    · obtain ⟨printed, hp⟩ := printMarkup_ok hm k.width
        { s' with store := answered.2, records := records }
      rw [hp] at hs
      rw [hr, result_bind_ok hs]
      simp [reported?, answered, Renders, hm, Outcome.ofSurvey]

lemma Approves.backed {s s' : Session σ π} {a : Approval} (h : Approves k root s a s') :
    a.entry.secret ∈ a.survey.extraction.secrets ∧ a.entry.remote ≠ a.entry.localText ∧
      Backed s'.cache a.entry := by
  obtain ⟨s₁, hv, hu⟩ := h.unmoved
  obtain ⟨_, _, _, _, hp, _⟩ := h
  rw [hu.cache]
  exact backed_of_survey hv a.entry hp.mem

lemma names_sent {d : Drift} {g : Group} (h : g.lookup d.secret.name = some d.remote) :
    (d.sent g).map Prod.fst = g.map Prod.fst :=
  Json.names_put_of_mem (Association.lookup_isSome_iff_mem.1 ⟨d.remote, h⟩) d.localText

section Transcribed

variable {t : Project} {s₀ : σ} {p₀ : π}

lemma Unmoved.untouched {s s' : Session (σ × List Exchange) π} (h : Unmoved s s') (hs : Untouched t s) :
    Untouched t s' := by
  rwa [Untouched, h.project, h.store]

lemma survey_start_untouched :
    Untouched t ((survey k.transcribed root).result (Session.start t (s₀, []) p₀)).2 :=
  (survey_untouched t).always ⟨rfl, rfl⟩

lemma Approves.untouched {a : Approval} {s : Session (σ × List Exchange) π}
    (h : Approves k.transcribed root (.start t (s₀, []) p₀) a s) : Untouched t s := by
  obtain ⟨s₁, hv, hu⟩ := h.unmoved
  have h₁ : Untouched t s₁ := (survey_untouched t).ok ⟨rfl, rfl⟩ hv
  exact hu.untouched h₁

lemma Approves.mirrors {a : Approval} {s : Session (σ × List Exchange) π}
    (h : Approves k.transcribed root (.start t (s₀, []) p₀) a s) : Mirrors a.survey.token s := by
  obtain ⟨s₁, hv, hu⟩ := h.unmoved
  have h₁ := survey_mirrors rfl rfl hv
  constructor
  · rw [hu.store, hu.cache, h₁.transcript]
  · rw [hu.cache]
    exact h₁.distinct

lemma push_of_approval {a : Approval} {s : Session (σ × List Exchange) π}
    (h : Approves k.transcribed root (.start t (s₀, []) p₀) a s) :
    let run := (push k.transcribed root).result (.start t (s₀, []) p₀)
    ∃ g answer, s.cache.answer? a.entry.secret.groupPath = some (.ok g) ∧
      g.lookup a.entry.secret.name = some a.entry.remote ∧ run.2.project = t ∧
      run.2.store.2 = s.store.2 ++
        [.update a.survey.token a.entry.secret.groupPath (a.entry.sent g) answer] ∧
      (reported? run.1 = some a.entry.secret ↔
        answer = .ok () ∧ Renders (pushedLine root a.entry.secret)) := by
  intro run
  obtain ⟨-, -, g, hg, hl⟩ := h.backed
  obtain ⟨hp, hs, hr⟩ := push_sends h hg
  refine ⟨g, _, hg, hl, hp.trans h.untouched.1, ?_, hr⟩
  exact congrArg Prod.snd hs

end Transcribed

/-- A run of push never changes the project. Without an approval it sends nothing and reports
nothing. With one it sends exactly one update, with the token of the run, to the group of the entry
that was shown: the group as this run fetched it with the local text under the secret's name. What
was sent is reported exactly if it was accepted, unless the closing line is no markup. -/
theorem push_updates (k : Context σ π) (root : Path) (t : Project) (s₀ : σ) (p₀ : π) :
    let start : Session (σ × List Exchange) π := .start t (s₀, []) p₀
    let run := (push k.transcribed root).result start
    run.2.project = t ∧
      ((∀ a s, ¬ Approves k.transcribed root start a s) →
        updates run.2.store.2 = [] ∧ reported? run.1 = none) ∧
      ∀ a s, Approves k.transcribed root start a s → ∃ g answer,
        .fetch a.survey.token a.entry.secret.groupPath (.ok g) ∈ s.store.2 ∧
        updates run.2.store.2 =
          [.update a.survey.token a.entry.secret.groupPath (a.entry.sent g) answer] ∧
        (a.entry.sent g).map Prod.fst = g.map Prod.fst ∧
        (∀ key, (a.entry.sent g).lookup key =
          if key = a.entry.secret.name then some a.entry.localText else g.lookup key) ∧
        (reported? run.1 = some a.entry.secret ↔
          answer = .ok () ∧ Renders (pushedLine root a.entry.secret)) ∧
        ((reported? run.1 = some a.entry.secret ↔ answer = .ok ()) ↔
          (answer = .ok () → Renders (pushedLine root a.entry.secret))) := by
  intro start run
  -- approved or not, the tree is what it was: only the store hears of a push
  have hproject : run.2.project = t := by
    by_cases h : ∃ a s, Approves k.transcribed root start a s
    · obtain ⟨a, s, h⟩ := h
      obtain ⟨_, _, _, _, hp, _⟩ := push_of_approval h
      exact hp
    · have hn := push_of_not_approves fun a s ha => h ⟨a, s, ha⟩
      exact (hn.1.untouched survey_start_untouched).1
  refine ⟨hproject, fun h => ?_, fun a s h => ?_⟩
  · obtain ⟨hu, hr⟩ := push_of_not_approves h
    exact ⟨(hu.untouched survey_start_untouched).2, hr⟩
  · obtain ⟨g, answer, hg, hl, -, hs, hr⟩ := push_of_approval h
    refine ⟨g, answer, h.mirrors.fetch_mem hg, ?_, names_sent hl, lookup_sent a.entry g, hr, ?_⟩
    · rw [hs, updates_append, h.untouched.2, updates_update, List.nil_append]
    · rw [hr]
      tauto

def tangled : Project :=
  projectOf "vault:secret/g#k]" "x[/b" [(["x["], .directory), (["x[", "b"], .file (utf8 "new\n"))]

theorem accepted_update_unreported :
    let k := Context.plain Memory.store
    let start := Session.start tangled (⟨[("g", [("k]", "old\n")])], []⟩, []) ()
    let run := (push k.transcribed manifestPath).result start
    (∃ a s, Approves k.transcribed manifestPath start a s) ∧
      updates run.2.store.2 = [.update "tok" "g" [("k]", "new\n")] (.ok ())] ∧
      reported? run.1 = none := by
  intro k start run
  have hrun : updates run.2.store.2 = [.update "tok" "g" [("k]", "new\n")] (.ok ())] ∧
      reported? run.1 = none := by decide +kernel
  obtain ⟨hu, hr⟩ := hrun
  refine ⟨?_, hu, hr⟩
  by_contra h
  have hn := push_of_not_approves fun a s ha => h ⟨a, s, ha⟩
  have he : updates run.2.store.2 = [] := (hn.1.untouched survey_start_untouched).2
  rw [hu] at he
  cases he

end ConfigKeeper.Sync
