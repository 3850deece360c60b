import ConfigKeeper.Proofs.Store.Replay
import ConfigKeeper.Proofs.Sync.SingleUpdate

/-!
Two pushes at one store, interleaved in any way. What each run sends is settled by what it fetched,
so whether both edits survive is settled by whether one run fetched after the other one sent.
-/

namespace ConfigKeeper.Sync

inductive Client
  | first
  | second
deriving DecidableEq

namespace Client

def other : Client → Client
  | first => second
  | second => first

lemma other_ne (c : Client) : c.other ≠ c := by cases c <;> decide

lemma eq_or_eq_other (c c' : Client) : c' = c ∨ c' = c.other := by
  cases c <;> cases c' <;> decide

end Client

abbrev History := List (Client × Exchange)

namespace History

def of (c : Client) (h : History) : List Exchange := h.filterMap fun x => if x.1 = c then some x.2 else none

@[simp] lemma of_append (c : Client) (xs ys : History) : of c (xs ++ ys) = of c xs ++ of c ys :=
  List.filterMap_append

@[simp] lemma of_own (c : Client) (e : Exchange) : of c [(c, e)] = [e] := by simp [of]

lemma of_ne {c c' : Client} (h : c' ≠ c) (e : Exchange) : of c [(c', e)] = [] := by simp [of, h]

lemma mem_of {c : Client} {e : Exchange} {h : History} : e ∈ of c h ↔ (c, e) ∈ h := by
  simp only [of, List.mem_filterMap]
  constructor
  · rintro ⟨⟨c', e'⟩, hx, he⟩
    split at he
    · next hc =>
      cases he
      cases hc
      exact hx
    · cases he
  · intro he
    exact ⟨_, he, if_pos rfl⟩

lemma exists_split {c : Client} {h : History} {before : List Exchange} {last : Exchange}
    (hof : of c h = before ++ [last]) :
    ∃ xs ys, h = xs ++ (c, last) :: ys ∧ of c xs = before ∧ of c ys = [] := by
  obtain ⟨xs, rest, rfl, hxs, hrest⟩ := List.filterMap_eq_append_iff.1 hof
  obtain ⟨skipped, x, ys, rfl, hskipped, hlast, hys⟩ := List.filterMap_eq_cons_iff.1 hrest
  have hx : x = (c, last) := by
    split at hlast
    · next hc => exact Prod.ext hc (Option.some.inj hlast)
    · cases hlast
  have hnone : of c skipped = [] := List.filterMap_eq_nil_iff.2 hskipped
  refine ⟨xs ++ skipped, ys, by rw [hx, List.append_assoc], ?_, hys⟩
  rw [of_append, hnone, List.append_nil]
  exact hxs

lemma exists_last {h : History} {before : Client → List Exchange} {last : Client → Exchange}
    (hof : ∀ c, of c h = before c ++ [last c]) :
    ∃ c xs ys, h = xs ++ (c.other, last c.other) :: ys ++ [(c, last c)] ∧ of c.other xs = before c.other ∧
      of c.other ys = [] ∧ of c xs ++ of c ys = before c := by
  rcases List.eq_nil_or_concat h with rfl | ⟨front, ⟨c, e⟩, rfl⟩
  · exact absurd (hof .first) (by simp [of])
  · rw [List.concat_eq_append] at hof ⊢
    have hown := hof c
    have hother := hof c.other
    rw [of_append, of_own] at hown
    rw [of_append, of_ne (Client.other_ne c).symm, List.append_nil] at hother
    obtain ⟨hbefore, he⟩ := List.append_inj' hown rfl
    obtain ⟨xs, ys, rfl, hxs, hys⟩ := exists_split hother
    refine ⟨c, xs, ys, by rw [(List.cons.inj he).1], hxs, hys, ?_⟩
    rw [← hbefore, List.append_cons, of_append, of_append, of_ne (Client.other_ne c), List.append_nil]

/-- A client fetches the group after the other one has sent it. -/
def Follows (h : History) (group : String) (c : Client) : Prop :=
  ∃ front back, h = front ++ back ∧ (∃ token data answer, (c.other, .update token group data answer) ∈ front) ∧
    ∃ token answer, (c, .fetch token group answer) ∈ back

def EndsWith (h : History) (c : Client) : Prop :=
  ∃ front token group data answer, h = front ++ [(c, .update token group data answer)]

lemma follows_iff {xs ys : History} {c : Client} {token group : String} {data : Group}
    {answer : Except Failure Unit} {last : Exchange} (hlast : last.isUpdate = true)
    (hxs : ∀ x ∈ xs, x.2.isUpdate = false) (hys : of c.other ys = []) :
    (∃ c', Follows (xs ++ (c.other, .update token group data answer) :: ys ++ [(c, last)]) group c') ↔
      ∃ token answer, (c, .fetch token group answer) ∈ ys := by
  constructor
  · rintro ⟨c', front, back, he, ⟨token', data', answer', hu⟩, token'', answer'', hf⟩
    have hback : ∀ x ∈ back, x ∈ ys ∨ x = (c, last) := by
      rw [List.append_assoc, List.cons_append] at he
      rcases List.append_eq_append_iff.1 he with ⟨zs, rfl, hz⟩ | ⟨zs, rfl, -⟩
      · cases zs with
        | nil =>
          rw [List.append_nil] at hu
          exact absurd (hxs _ hu) (by simp [Exchange.isUpdate])
        | cons z zs =>
          rintro x hx
          have hrest : ys ++ [(c, last)] = zs ++ back := (List.cons.inj hz).2
          have hmem : x ∈ ys ++ [(c, last)] := hrest ▸ List.mem_append_right zs hx
          simpa using hmem
      · exact absurd (hxs _ (List.mem_append_left zs hu)) (by simp [Exchange.isUpdate])
    rcases hback _ hf with hy | hy
    · rcases Client.eq_or_eq_other c c' with rfl | rfl
      · exact ⟨token'', answer'', hy⟩
      · rw [← mem_of, hys] at hy
        cases hy
    · cases hy
      cases hlast
  · rintro ⟨token', answer', hf⟩
    refine ⟨c, xs ++ [(c.other, .update token group data answer)], ys ++ [(c, last)], by simp, ?_, ?_⟩
    · exact ⟨token, data, answer, by simp⟩
    · exact ⟨token', answer', by simp [hf]⟩

end History

def Pushes (transcript : List Exchange) (d : Drift) : Prop :=
  ∃ (σ π : Type) (k : Context σ π) (root : Path) (t : Project) (s₀ : σ) (p₀ : π) (a : Approval)
    (s : Session (σ × List Exchange) π), Approves k.transcribed root (.start t (s₀, []) p₀) a s ∧ a.entry = d ∧
      ((push k.transcribed root).result (.start t (s₀, []) p₀)).2.store.2 = transcript

structure Prepares (fetched : List Exchange) (d : Drift) (g : Group) : Prop where
  silent : ∀ e ∈ fetched, e.isUpdate = false
  asked : ∃ token, .fetch token d.secret.groupPath (.ok g) ∈ fetched
  once : ∀ token answer, .fetch token d.secret.groupPath answer ∈ fetched → answer = .ok g
  remote : g.lookup d.secret.name = some d.remote
  drifted : d.remote ≠ d.localText

lemma Mirrors.fetch_unique {σ π : Type} {token token' name : String} {s : Session (σ × List Exchange) π}
    {a : Except Problem Group} {answer : Except Failure Group} (h : Mirrors token s)
    (ha : s.cache.answer? name = some a) (hf : .fetch token' name answer ∈ s.store.2) :
    answer = a.mapError Failure.problem := by
  rw [h.transcript] at hf
  obtain ⟨⟨key, b⟩, hb, he⟩ := List.mem_map.1 hf
  cases he
  have hlookup := Association.lookup_of_mem h.distinct (List.mem_reverse.1 hb)
  rw [Cache.answer?, hlookup, Option.some.injEq] at ha
  rw [ha]

lemma Pushes.sends {transcript : List Exchange} {d : Drift} (h : Pushes transcript d) :
    ∃ fetched token g answer, Prepares fetched d g ∧
      transcript = fetched ++ [.update token d.secret.groupPath (d.sent g) answer] := by
  obtain ⟨σ, π, k, root, t, s₀, p₀, a, s, ha, rfl, rfl⟩ := h
  obtain ⟨g, answer, hg, hl, -, hs, -⟩ := push_of_approval ha
  refine ⟨s.store.2, a.survey.token, g, answer, ⟨?_, ⟨_, ha.mirrors.fetch_mem hg⟩, ?_, hl, ha.backed.2.1⟩, hs⟩
  · intro e he
    have hu : updates s.store.2 = [] := ha.untouched.2
    have hnot := List.filter_eq_nil_iff.1 hu e he
    rwa [Bool.not_eq_true] at hnot
  · intro token answer hf
    exact ha.mirrors.fetch_unique hg hf

variable {σ : Type} {store : SecretStore σ} {held : σ → String → Option Group}

lemma replayed_group (hm : store.Merges held) {s s' : σ} {xs ys : History} {c : Client}
    {token token' group : String} {data data' : Group}
    (hr : store.Replays s (List.map Prod.snd (xs ++ (c.other, .update token group data (.ok ())) :: ys ++
      [(c, .update token' group data' (.ok ()))] : History)) s')
    (hxs : ∀ x ∈ xs, x.2.isUpdate = false) (hys : ∀ x ∈ ys, x.2.isUpdate = false) :
    let between := ((held s group).getD []).merge data
    held s' group = some (between.merge data') ∧
      (∀ x token g, (x, .fetch token group (.ok g)) ∈ xs → held s group = some g) ∧
      ∀ x token g, (x, .fetch token group (.ok g)) ∈ ys → g = between := by
  intro between
  rw [List.map_append, List.map_append, List.map_cons] at hr
  obtain ⟨s₃, hr, hlast⟩ := hr.of_append
  obtain ⟨s₁, hfront, hr⟩ := hr.of_append
  obtain ⟨s₂, hs₂, hback⟩ := hr.merged hm
  obtain ⟨s₄, hs₄, hend⟩ := hlast.merged hm
  cases hend
  obtain ⟨hheld₁, hfetch₁⟩ := hfront.fetches hm (List.forall_mem_map.2 hxs)
  obtain ⟨hheld₃, hfetch₃⟩ := hback.fetches hm (List.forall_mem_map.2 hys)
  rw [hheld₁] at hs₂
  refine ⟨?_, fun x token g hg => ?_, fun x token g hg => ?_⟩
  · rw [hs₄, hheld₃, hs₂]
    rfl
  · exact hfetch₁ token group g (List.mem_map_of_mem hg)
  · have hg' := hfetch₃ token group g (List.mem_map_of_mem hg)
    rw [hs₂] at hg'
    exact (Option.some.inj hg').symm

/-- A history in which `c` is the last one to send: what was fetched before the first update stands in
`xs`, and what was fetched between the two stands in `ys`. -/
structure Ordered (h : History) (d : Client → Drift) (group : String) (g : Client → Group) (c : Client)
    (xs ys : History) : Prop where
  eq : ∃ token token', h = xs ++ (c.other, .update token group ((d c.other).sent (g c.other)) (.ok ())) :: ys ++
    [(c, .update token' group ((d c).sent (g c)) (.ok ()))]
  silent : ∀ x ∈ xs ++ ys, x.2.isUpdate = false
  alone : History.of c.other ys = []
  once : ∀ c' token answer, (c', .fetch token group answer) ∈ xs ++ ys → answer = .ok (g c')
  before : ∃ token, (c.other, .fetch token group (.ok (g c.other))) ∈ xs
  asked : ∃ token, (c, .fetch token group (.ok (g c))) ∈ xs ++ ys

lemma exists_ordered {h : History} {d : Client → Drift} {group : String} (hp : ∀ c, Pushes (h.of c) (d c))
    (haccepted : ∀ c token name data answer, (c, .update token name data answer) ∈ h → answer = .ok ())
    (hgroup : ∀ c, (d c).secret.groupPath = group) :
    ∃ g c xs ys, Ordered h d group g c xs ys ∧
      ∀ c, (g c).lookup (d c).secret.name = some (d c).remote ∧ (d c).remote ≠ (d c).localText := by
  choose fetched token g answer hprep hof using fun c => (hp c).sends
  have hanswer : ∀ c, answer c = .ok () := fun c => by
    refine haccepted c (token c) (d c).secret.groupPath ((d c).sent (g c)) (answer c) ?_
    rw [← History.mem_of, hof]
    exact List.mem_append_right _ List.mem_cons_self
  simp only [hanswer, hgroup] at hof
  obtain ⟨c, xs, ys, he, hxo, hyo, hxc⟩ := History.exists_last hof
  have hmem : ∀ c' e, (c', e) ∈ xs ++ ys → e ∈ fetched c' := fun c' e hx => by
    rw [← History.mem_of, History.of_append] at hx
    rcases Client.eq_or_eq_other c c' with rfl | rfl
    · rwa [hxc] at hx
    · rwa [hxo, hyo, List.append_nil] at hx
  refine ⟨g, c, xs, ys, ⟨⟨_, _, he⟩, ?_, hyo, ?_, ?_, ?_⟩, fun c => ⟨(hprep c).remote, (hprep c).drifted⟩⟩
  · rintro ⟨c', e⟩ hx
    exact (hprep c').silent e (hmem c' e hx)
  · intro c' token' answer' hx
    exact (hprep c').once token' answer' (by rw [hgroup]; exact hmem c' _ hx)
  · obtain ⟨token', hf⟩ := (hprep c.other).asked
    rw [hgroup, ← hxo, History.mem_of] at hf
    exact ⟨token', hf⟩
  · obtain ⟨token', hf⟩ := (hprep c).asked
    rw [hgroup, ← hxc, ← History.of_append, History.mem_of] at hf
    exact ⟨token', hf⟩

section Ordered

variable {h : History} {d : Client → Drift} {group : String} {g : Client → Group} {c : Client} {xs ys : History}

lemma Ordered.follows_iff (ho : Ordered h d group g c xs ys) :
    (∃ c', h.Follows group c') ↔ ∃ token answer, (c, .fetch token group answer) ∈ ys := by
  obtain ⟨token, token', rfl⟩ := ho.eq
  exact History.follows_iff rfl (fun x hx => ho.silent x (List.mem_append_left ys hx)) ho.alone

lemma Ordered.endsWith (ho : Ordered h d group g c xs ys) : h.EndsWith c := by
  obtain ⟨token, token', he⟩ := ho.eq
  exact ⟨_, token', group, _, _, he⟩

lemma Ordered.replayed (ho : Ordered h d group g c xs ys) (hm : store.Merges held) {s s' : σ}
    (hr : store.Replays s (h.map Prod.snd) s') :
    let between := (g c.other).merge ((d c.other).sent (g c.other))
    held s group = some (g c.other) ∧ held s' group = some (between.merge ((d c).sent (g c))) ∧
      ((∃ c', h.Follows group c') → g c = between) ∧ ((¬ ∃ c', h.Follows group c') → g c = g c.other) := by
  intro between
  rw [ho.follows_iff]
  obtain ⟨token, token', rfl⟩ := ho.eq
  obtain ⟨hfinal, hfront, hback⟩ := replayed_group hm hr
    (fun x hx => ho.silent x (List.mem_append_left ys hx)) (fun x hx => ho.silent x (List.mem_append_right xs hx))
  obtain ⟨token₁, hbefore⟩ := ho.before
  have hheld : held s group = some (g c.other) := hfront _ token₁ _ hbefore
  rw [hheld, Option.getD_some] at hfinal hback
  refine ⟨hheld, hfinal, ?_, ?_⟩
  · rintro ⟨token₂, answer, hf⟩
    have ha := ho.once c token₂ answer (List.mem_append_right xs hf)
    rw [ha] at hf
    exact hback c token₂ (g c) hf
  · intro hn
    obtain ⟨token₂, hf⟩ := ho.asked
    rcases List.mem_append.1 hf with hx | hy
    · have hc := hfront c token₂ (g c) hx
      rw [hheld] at hc
      exact (Option.some.inj hc).symm
    · exact absurd ⟨token₂, _, hy⟩ hn

end Ordered

/-- Two confirmed pushes that edit different values of one group, interleaved in any way at a store
that merges what it is sent. Both edits are in the group afterwards exactly if one run fetched it
after the other one had sent it. Otherwise the last one to send puts back what it had fetched in the
place of the other edit. -/
theorem edits_survive_iff (hm : store.Merges held) {s s' : σ} {h : History} {d : Client → Drift} {group : String}
    (hr : store.Replays s (h.map Prod.snd) s') (hp : ∀ c, Pushes (h.of c) (d c))
    (haccepted : ∀ c token name data answer, (c, .update token name data answer) ∈ h → answer = .ok ())
    (hgroup : ∀ c, (d c).secret.groupPath = group) (hname : (d .first).secret.name ≠ (d .second).secret.name)
    (hdistinct : ∀ g, held s group = some g → Json.Distinct g) :
    ∃ g, held s' group = some g ∧
      ((∀ c, g.lookup (d c).secret.name = some (d c).localText) ↔ ∃ c, h.Follows group c) ∧
      ((¬ ∃ c, h.Follows group c) → ∃ c, h.EndsWith c ∧
        g.lookup (d c).secret.name = some (d c).localText ∧
        g.lookup (d c.other).secret.name = some (d c.other).remote) := by
  obtain ⟨g, c, xs, ys, ho, hremote⟩ := exists_ordered hp haccepted hgroup
  obtain ⟨hheld, hfinal, hfollows, hnot⟩ := ho.replayed hm hr
  have hne : (d c.other).secret.name ≠ (d c).secret.name := by
    cases c
    · exact hname.symm
    · exact hname
  have hdother : Json.Distinct (g c.other) := hdistinct _ hheld
  -- the last one to send fetched what the other one made, or what both started from
  have hdown : Json.Distinct (g c) := by
    by_cases hf : ∃ c', h.Follows group c'
    · rw [hfollows hf]
      exact hdother.putAll _
    · rwa [hnot hf]
  have hown : ∀ base : Group, (base.merge ((d c).sent (g c))).lookup (d c).secret.name = some (d c).localText :=
    fun base => by rw [lookup_merge_sent (d c) hdown, if_pos rfl]
  have hkept : (∃ c', h.Follows group c') → (((g c.other).merge ((d c.other).sent (g c.other))).merge
      ((d c).sent (g c))).lookup (d c.other).secret.name = some (d c.other).localText := fun hf => by
    rw [lookup_merge_sent (d c) hdown, if_neg hne, hfollows hf, lookup_merge_sent (d c.other) hdother, if_pos rfl]
    rfl
  have hlost : (¬ ∃ c', h.Follows group c') → (((g c.other).merge ((d c.other).sent (g c.other))).merge
      ((d c).sent (g c))).lookup (d c.other).secret.name = some (d c.other).remote := fun hf => by
    rw [lookup_merge_sent (d c) hdown, if_neg hne, hnot hf, (hremote c.other).1]
    rfl
  refine ⟨_, hfinal, ⟨fun hall => ?_, fun hf c' => ?_⟩, fun hf => ⟨c, ho.endsWith, hown _, hlost hf⟩⟩
  · by_contra hf
    have hstale := hlost hf
    rw [hall c.other, Option.some.injEq] at hstale
    exact (hremote c.other).2 hstale.symm
  · rcases Client.eq_or_eq_other c c' with rfl | rfl
    · exact hown _
    · exact hkept hf

section Crossed

lemma Pushes.localText {fetched : List Exchange} {token group : String} {data : Group}
    {answer : Except Failure Unit} {d : Drift} (h : Pushes (fetched ++ [.update token group data answer]) d) :
    d.secret.groupPath = group ∧ data.lookup d.secret.name = some d.localText := by
  obtain ⟨fetched', token', g, answer', -, he⟩ := h.sends
  have hlast := List.cons.inj (List.append_inj' he rfl).2
  cases hlast.1
  exact ⟨rfl, by rw [Sync.lookup_sent, if_pos rfl]⟩

def twoValues : Memory := ⟨[("g", [("a", "old\n"), ("b", "old\n")])], []⟩

def editing (name : String) : Project :=
  projectOf ("vault:secret/g#" ++ name) "out" [(["out"], .file (utf8 "new\n"))]

def editRun (name : String) : Except Failure Outcome × Session (Memory × List Exchange) Unit :=
  (push (Context.plain Memory.store).transcribed manifestPath).result (.start (editing name) (twoValues, []) ())

def fetchTwo : Exchange := .fetch "tok" "g" (.ok [("a", "old\n"), ("b", "old\n")])

def sendFirst : Exchange := .update "tok" "g" [("a", "new\n"), ("b", "old\n")] (.ok ())

def sendSecond : Exchange := .update "tok" "g" [("a", "old\n"), ("b", "new\n")] (.ok ())

def crossed : History :=
  [(.first, fetchTwo), (.second, fetchTwo), (.first, sendFirst), (.second, sendSecond)]

lemma exists_pushes {name : String} {data : Group}
    (ht : (editRun name).2.store.2 = [fetchTwo, .update "tok" "g" data (.ok ())])
    (hr : (reported? (editRun name).1).map SecretInfo.name = some name) :
    ∃ d, Pushes [fetchTwo, .update "tok" "g" data (.ok ())] d ∧ d.secret.groupPath = "g" ∧ d.secret.name = name ∧
      data.lookup name = some d.localText := by
  obtain ⟨i, hi, hname⟩ := Option.map_eq_some_iff.1 hr
  obtain ⟨a, s, ha, rfl⟩ := approves_of_reported hi
  have hp : Pushes ([fetchTwo] ++ [.update "tok" "g" data (.ok ())]) a.entry :=
    ⟨_, _, Context.plain Memory.store, manifestPath, editing name, twoValues, (), a, s, ha, rfl, ht⟩
  obtain ⟨hgroup, htext⟩ := hp.localText
  rw [hname] at htext
  exact ⟨a.entry, hp, hgroup, hname, htext⟩

def afterCrossed : Memory := ⟨[("g", [("a", "old\n"), ("b", "new\n")])], []⟩

lemma replays_crossed : Memory.store.Replays twoValues (crossed.map Prod.snd) afterCrossed :=
  .cons ⟨rfl, rfl⟩ (.cons ⟨rfl, rfl⟩ (.cons ⟨rfl, rfl⟩ (.cons ⟨rfl, rfl⟩ (.nil _))))

lemma exists_crossed : ∃ d : Client → Drift, (∀ c, Pushes (crossed.of c) (d c)) ∧
    (∀ c, (d c).secret.groupPath = "g") ∧ (d .first).secret.name = "a" ∧ (d .second).secret.name = "b" ∧
    ∀ c, (d c).localText = "new\n" := by
  have hrun : (editRun "a").2.store.2 = [fetchTwo, sendFirst] ∧
      (reported? (editRun "a").1).map SecretInfo.name = some "a" ∧
      (editRun "b").2.store.2 = [fetchTwo, sendSecond] ∧
      (reported? (editRun "b").1).map SecretInfo.name = some "b" := by decide +kernel
  obtain ⟨hta, hra, htb, hrb⟩ := hrun
  obtain ⟨da, hpa, hga, hna, hla⟩ := exists_pushes hta hra
  obtain ⟨db, hpb, hgb, hnb, hlb⟩ := exists_pushes htb hrb
  refine ⟨fun c => match c with | .first => da | .second => db, ?_, ?_, hna, hnb, ?_⟩
  · rintro (_ | _)
    · exact hpa
    · exact hpb
  · rintro (_ | _)
    · exact hga
    · exact hgb
  · rintro (_ | _)
    · exact (Option.some.inj hla).symm
    · exact (Option.some.inj hlb).symm

lemma crossed_accepted (c : Client) (token name : String) (data : Group) (answer : Except Failure Unit)
    (h : (c, .update token name data answer) ∈ crossed) : answer = .ok () := by
  simp only [crossed, fetchTwo, sendFirst, sendSecond, List.mem_cons, Prod.mk.injEq, Exchange.update.injEq,
    reduceCtorEq, and_false, List.not_mem_nil, or_false, false_or] at h
  rcases h with h | h
  · exact h.2.2.2.2
  · exact h.2.2.2.2

theorem edits_survive_iff_of_crossed :
    ∃ d : Client → Drift, (∀ c, Pushes (crossed.of c) (d c)) ∧
      Memory.store.Replays twoValues (crossed.map Prod.snd) afterCrossed ∧ ∃ g,
        afterCrossed.groups.lookup "g" = some g ∧
        ((∀ c, g.lookup (d c).secret.name = some (d c).localText) ↔ ∃ c, crossed.Follows "g" c) := by
  obtain ⟨d, hp, hgroup, hfirst, hsecond, -⟩ := exists_crossed
  have hne : (d .first).secret.name ≠ (d .second).secret.name := by
    rw [hfirst, hsecond]
    decide
  have hdistinct : ∀ g, twoValues.groups.lookup "g" = some g → Json.Distinct g := by
    rintro g ⟨⟩
    decide
  obtain ⟨g, hg, hiff, -⟩ :=
    edits_survive_iff Memory.merges replays_crossed hp crossed_accepted hgroup hne hdistinct
  exact ⟨d, hp, replays_crossed, g, hg, hiff⟩

theorem edit_lost_when_crossed :
    ∃ d : Client → Drift, (∀ c, Pushes (crossed.of c) (d c)) ∧
      (d .first).secret.groupPath = (d .second).secret.groupPath ∧
      (d .first).secret.name ≠ (d .second).secret.name ∧
      Memory.store.Replays twoValues (crossed.map Prod.snd) afterCrossed ∧
      ¬ ∃ g, afterCrossed.groups.lookup (d .first).secret.groupPath = some g ∧
        ∀ c, g.lookup (d c).secret.name = some (d c).localText := by
  obtain ⟨d, hp, hgroup, hfirst, hsecond, htext⟩ := exists_crossed
  refine ⟨d, hp, by rw [hgroup, hgroup], by rw [hfirst, hsecond]; decide, replays_crossed, ?_⟩
  rintro ⟨g, hg, hall⟩
  have hlost := hall .first
  rw [hgroup] at hg
  cases hg
  rw [hfirst, htext] at hlost
  exact absurd hlost (by decide)

end Crossed

end ConfigKeeper.Sync
