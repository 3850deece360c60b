import ConfigKeeper.Proofs.Sync.Account
import ConfigKeeper.Proofs.Sync.Convergence

/-!
A file that was pushed comes back with the next pull. What is sent for it is its text as it was read,
with each line end a line feed, so it comes back as it was if it holds no carriage return.
-/

namespace ConfigKeeper

namespace Project

variable {t : Project} {path : Path} {text : String}

lemma ok_of_readFile {bytes : List UInt8} (h : t.readFile path = .ok bytes) :
    ∃ p, t.place path = .ok p ∧ t.entryAt p = some (.file bytes) := by
  rw [readFile] at h
  cases hp : t.place path with
  | error e =>
    rw [hp] at h
    cases h
  | ok p =>
    rw [hp] at h
    refine ⟨p, rfl, ?_⟩
    simp only at h
    split at h
    · cases h
    · cases h
    · next he =>
      cases h
      exact he

lemma ok_of_readText (h : t.readText path = .ok text) : ∃ p s, t.place path = .ok p ∧
    t.entryAt p = some (.file (Text.encodeUtf8 s)) ∧ text = String.ofList (Text.unifyNewlines s) := by
  rw [readText] at h
  cases hf : t.readFile path with
  | error e =>
    rw [hf] at h
    cases h
  | ok bytes =>
    rw [hf] at h
    simp only at h
    cases hb : textOfBytes bytes with
    | error f =>
      rw [hb] at h
      cases h
    | ok own =>
      rw [hb] at h
      cases h
      obtain ⟨s, rfl, hs⟩ := encode_of_textOfBytes hb
      obtain ⟨p, hp, he⟩ := ok_of_readFile hf
      exact ⟨p, s, hp, he, hs⟩

end Project

namespace Sync

open Sync.Action

variable {σ π : Type} {k : Context σ π} {root : Path} {token : String} {t : Project}

section Read

lemma group_keeps_project (k : Context σ π) (token : String) (t : Project) (name : String) :
    Keeps (fun s : Session σ π => s.project = t) (fun s => s.project = t) (Action.group k token name) :=
  Keeps.of_always fun _ hs => hs

lemma read_of_driftOf {is : List SecretInfo} {s s' : Session σ π} {ds : List Drift} (hs : s.project = t)
    (h : (driftOf k token root is).result s = (.ok ds, s')) :
    ∀ d ∈ ds, t.readText d.secret.localPath = .ok d.localText := by
  induction is generalizing s ds with
  | nil =>
    cases h
    simp
  | cons i is ih =>
    obtain ⟨found, s₁, hf, h⟩ := ok_of_bind h
    obtain ⟨rest, s₂, hr, h⟩ := ok_of_bind h
    rw [result_pure, Prod.mk.injEq, Except.ok.injEq] at h
    obtain ⟨rfl, rfl⟩ := h
    have h₁ : s₁.project = t :=
      (drift?_keeps (quiet_project t) (group_keeps_project k token t i.groupPath)).ok hs hf
    rintro d hd
    rcases List.mem_append.1 hd with hd | hd
    · rw [Option.mem_toList] at hd
      subst hd
      obtain ⟨rfl, hread, -⟩ := ok_of_drift? hf
      rwa [hs, Project.value_readSource_eq_ok_iff] at hread
    · exact ih h₁ hr d hd

lemma read_of_survey {s s' : Session σ π} {v : Survey} (h : (survey k root).result s = (.ok v, s')) :
    ∀ d ∈ v.drifted, s.project.readText d.secret.localPath = .ok d.localText := by
  obtain ⟨s₁, hx, -, hc⟩ := ok_of_survey h
  obtain ⟨s₂, records, hd, rfl⟩ := ok_of_compare hc
  have hread := read_of_driftOf (project_discover hx) hd
  exact hread

lemma Approves.read {s s' : Session σ π} {a : Approval} (h : Approves k root s a s') :
    s.project.readText a.entry.secret.localPath = .ok a.entry.localText := by
  obtain ⟨_, _, _, hv, hp, _⟩ := h
  exact read_of_survey hv _ hp.mem

lemma Approves.project {s s' : Session σ π} {a : Approval} (h : Approves k root s a s') :
    s'.project = s.project := by
  obtain ⟨s₁, hv, hu⟩ := h.unmoved
  have h₁ : s₁.project = s.project :=
    survey_invariant (quiet_project s.project) (group_keeps_project k a.survey.token s.project) rfl hv
  exact hu.project.trans h₁

end Read

section Pull

variable {content : String → Except Failure Group} {here : σ → Prop}

lemma pull_steady (hk : k.Steady content here) (ht : requireToken k.settings.token = .ok token) {s₀ : σ} {p₀ : π}
    (hs : here s₀) {x : Extraction} {s₁ : Session σ π}
    (hx : (discover k root).result (.start t s₀ p₀) = (.ok x, s₁)) :
    let run := (pull k root).result (.start t s₀ p₀)
    ∃ results, Accounts (fun name a => content name = a) t results run.2.project ∧
      results.map Prod.fst <+: x.secrets ∧
      ∀ o, run.1 = .ok o → results.map Prod.fst = x.secrets ∧ o = Outcome.ofResults x results := by
  intro run
  let P : Session σ π → Prop := fun s => Informed content here s.project s
  have hown : ∀ {v s}, Informed content here v s → P s := fun h => ⟨rfl, h.store, h.known⟩
  have ho : Outward (Itself P) fun _ => True := outward_itself fun _ _ _ _ _ h => ⟨rfl, h.store, h.known⟩
  have h₁ : P s₁ := hown ((discover_keeps (quiet_informed t)).ok (informed_start t p₀ hs) hx)
  have hgroup : ∀ i ∈ x.secrets, Along (Itself P) (fun _ => True) (Action.group k token i.groupPath) :=
    fun i _ => Along.of_always fun s hs => hown ((group_informed hk ht s.project i.groupPath).always hs)
  have hgives : ∀ i ∈ x.secrets, ∀ s, P s → True →
      content i.groupPath = ((Action.group k token i.groupPath).result s).1 :=
    fun i _ s hs _ => (group_of_informed hk ht hs i.groupPath).symm
  obtain ⟨-, results, haccounts, hfront, -, hout⟩ :=
    accounts_of_pull (fun name a => content name = a) ho ht hx hgroup hgives h₁ trivial
  exact ⟨results, haccounts, hfront, hout⟩

lemma Apart.eq_of_place {is : List SecretInfo} (h : Apart t is) {i j : SecretInfo} (hi : i ∈ is) (hj : j ∈ is)
    {p : Place} (hpi : t.place i.localPath = .ok p) (hpj : t.place j.localPath = .ok p) : i = j := by
  have : Std.Symm fun i j : SecretInfo =>
      ∀ p, t.place i.localPath = .ok p → t.place j.localPath ≠ .ok p :=
    ⟨fun i j hij p hj hi => hij p hi hj⟩
  by_contra hne
  exact h.forall hi hj hne p hpi hpj

end Pull

section Both

lemma Accounts.own {content : String → Except Failure Group} {v : Project} {is : List SecretInfo} {i : SecretInfo}
    {results : List (SecretInfo × Option Failure)} {p : Place} {text : String}
    (h : Accounts (fun name a => content name = a) t results v) (hfront : results.map Prod.fst <+: is)
    (hd : Apart v is) (hi : i ∈ is) (hp : v.place i.localPath = .ok p) (hv : value? content i = some text)
    (hw : p ∈ writtenPlaces v results) : v.entryAt p = some (.file (utf8 text)) := by
  obtain ⟨y, hy, hnone, hq⟩ := hw
  obtain rfl : i = y.1 := hd.eq_of_place hi (hfront.subset (List.mem_map_of_mem hy)) hp hq
  obtain ⟨g, w, q, hg, hl, hq, hf⟩ := h.written (hd.sublist hfront.sublist) y hy hnone
  obtain rfl : p = q := Except.ok.inj (hp.symm.trans hq)
  rw [value?, hg] at hv
  obtain rfl : w = text := Option.some.inj (hl.symm.trans hv)
  exact hf

lemma mem_writtenPlaces {x : Extraction} {results : List (SecretInfo × Option Failure)} {path : Path} {p : Place}
    (h : path ∈ (Outcome.ofResults x results).written) (hp : t.place path = .ok p) : p ∈ writtenPlaces t results := by
  obtain ⟨y, hy, hpath⟩ := List.mem_filterMap.1 h
  obtain ⟨hnone, hpath⟩ := Option.ite_none_right_eq_some.1 hpath
  obtain rfl : y.1.localPath = path := Option.some.inj hpath
  exact ⟨y, hy, Option.isNone_iff_eq_none.1 hnone, hp⟩

lemma utf8_unified_iff (s : List Char) :
    utf8 (String.ofList (Text.unifyNewlines s)) = Text.encodeUtf8 s ↔ '\r' ∉ s := by
  rw [utf8, String.toList_ofList, Text.encodeUtf8_injective.eq_iff, Text.unifyNewlines_eq_iff]

def Session.next (s : Session σ π) (p : π) : Session σ π := .start s.project s.store p

/-- A confirmed push puts the local text of its entry in the store, with each line end a line feed. A
pull right after it leaves the entry's file as it was if that holds no carriage return, however the
pull ends; and a file that is written then is as it was only if so. -/
theorem pushed_file_returns {content : σ → String → Except Failure Group} (hm : k.store.Maps content) {s : σ}
    {p₀ p₁ : π} {a : Approval} {u : Session σ π} (hg : AllDistinct (content s))
    (h : Approves k root (.start t s p₀) a u)
    (hd : Apart ((pull k root).result (((push k root).result (.start t s p₀)).2.next p₁)).2.project
      a.survey.extraction.secrets) :
    let i := a.entry.secret
    let pushed := (push k root).result (.start t s p₀)
    let pulled := (pull k root).result (pushed.2.next p₁)
    ∃ text, t.readFile i.localPath = .ok (Text.encodeUtf8 text) ∧ pushed.2.project = t ∧
      value? (content pushed.2.store) i = some (String.ofList (Text.unifyNewlines text)) ∧
      ('\r' ∉ text → pulled.2.project.readFile i.localPath = .ok (Text.encodeUtf8 text)) ∧
      ∀ o, pulled.1 = .ok o → i.localPath ∈ o.written →
        (pulled.2.project.readFile i.localPath = .ok (Text.encodeUtf8 text) ↔ '\r' ∉ text) := by
  intro i pushed pulled
  obtain ⟨p, text, hp, hfile, htext⟩ := Project.ok_of_readText h.read
  have hvalue : value? (content pushed.2.store) i = some a.entry.localText :=
    (replaces_of_approves hm h).value?_own hg
  obtain ⟨hi, -, g, hgroup, -⟩ := h.backed
  obtain ⟨hproject, -, -⟩ := push_sends h hgroup
  have hsame : pushed.2.project = t := hproject.trans h.project
  obtain ⟨s₁, hv, -⟩ := h.unmoved
  obtain ⟨s₂, hx, ht, -⟩ := ok_of_survey hv
  -- the push left the tree alone, so the pull finds the same secrets and the store is the only news
  obtain ⟨s₃, hx⟩ := discover_again hx (show (pushed.2.next p₁).project = t from hsame)
  obtain ⟨results, haccounts, hfront, hout⟩ := pull_steady (steady_of_maps hm pushed.2.store) ht rfl hx
  have hplace : pulled.2.project.place i.localPath = .ok p := haccounts.confined.place (by rwa [hsame])
  -- only the entry's own secret is at `p`, so the file has its value or is the one from before
  have hwritten : p ∈ writtenPlaces pulled.2.project results →
      pulled.2.project.readFile i.localPath = .ok (utf8 (String.ofList (Text.unifyNewlines text))) := by
    intro hw
    have hown := haccounts.own hfront hd hi hplace hvalue hw
    rw [htext] at hown
    exact Project.readFile_eq hplace hown
  refine ⟨text, Project.readFile_eq hp hfile, hsame, htext ▸ hvalue, fun hr => ?_, fun o ho hmem => ?_⟩
  · by_cases hw : p ∈ writtenPlaces pulled.2.project results
    · rw [hwritten hw, (utf8_unified_iff text).2 hr]
    · exact Project.readFile_eq hplace ((haccounts.confined.file_iff hw _).2 (by rwa [hsame]))
  · obtain ⟨-, rfl⟩ := hout o ho
    rw [hwritten (mem_writtenPlaces hmem hplace), Except.ok.injEq]
    exact utf8_unified_iff text

section Small

def localFile (text : String) : Project :=
  Project.under (manifestOf "vault:secret/g#k" "out.txt") [(["out.txt"], .file (utf8 text))]

theorem pushed_file_returns_of_lines :
    let k := (Context.plain Memory.store).transcribed
    let start : Session (Memory × List Exchange) Unit := .start (localFile "new\n") (storeOf "old\n", []) ()
    ∃ a u, Approves k manifestPath start a u ∧ a.entry.secret = oneSecret ∧
      ((pull k manifestPath).result (((push k manifestPath).result start).2.next ())).2.project.readFile
        oneSecret.localPath = .ok (utf8 "new\n") := by
  intro k start
  obtain ⟨s₁, hx⟩ := discover_under k (by decide) extract_oneSecret (show start.project = Project.under _ _ from rfl)
  have hp : (localFile "new\n").place oneSecret.localPath = .ok ["out.txt"] := by decide +kernel
  have hfile : (localFile "new\n").entryAt ["out.txt"] = some (.file (utf8 "new\n")) := rfl
  have hv : value? (storeOf "old\n").fetch oneSecret = some "old\n" := by decide +kernel
  have hg : AllDistinct (storeOf "old\n").fetch := allDistinct_of_groups (by decide)
  obtain ⟨hc, hdrift⟩ := comparable_of_file hp hfile (by decide) hv
  have hready : Ready Memory.fetch (localFile "new\n") [oneSecret] (storeOf "old\n") :=
    ⟨fun i hi => List.mem_singleton.1 hi ▸ hc, hg⟩
  obtain ⟨s₂, hsurvey⟩ := survey_of_ready (k := k) Memory.maps.transcribed rfl hx hready.transcribed
  have hfound : drifts (fun v : Memory × List Exchange => v.1.fetch) (localFile "new\n") [oneSecret]
      (storeOf "old\n", []) = [⟨oneSecret, "old\n", "new\n"⟩] := by
    rw [drifts, List.filterMap_cons_some hdrift]
    rfl
  have hsurvey : (survey k manifestPath).result start =
      (.ok ⟨⟨[(manifestPath, [oneSecret])], []⟩, "tok", [⟨oneSecret, "old\n", "new\n"⟩]⟩, s₂) := hfound ▸ hsurvey
  obtain ⟨s', p, a, u, ha, hentry, -⟩ := confirmed_of_agreeing hsurvey
  obtain ⟨s₃, hown, -⟩ := ha.unmoved
  have hsame : a.survey = _ := Except.ok.inj (congrArg Prod.fst (hown.symm.trans hsurvey))
  have hsecret : a.entry.secret = oneSecret := congrArg Drift.secret hentry
  have hsecrets : a.survey.extraction.secrets = [oneSecret] := by
    rw [hsame]
    rfl
  have hapart : ∀ v, Apart v a.survey.extraction.secrets := by
    intro v
    rw [hsecrets]
    exact List.pairwise_singleton _ _
  obtain ⟨text, hread, -, -, hkept, -⟩ :=
    pushed_file_returns (k := k) Memory.maps.transcribed hg ha (hapart _)
  rw [hsecret] at hread hkept
  obtain rfl : "new\n".toList = text :=
    Text.encodeUtf8_injective (Except.ok.inj ((Project.readFile_eq hp hfile).symm.trans hread))
  exact ⟨a, u, ha, hsecret, hkept (by decide)⟩

theorem pushed_file_rewritten :
    let k := Context.plain Memory.store
    let pushed := (push k manifestPath).result (.start (localFile "a\r\nb\n") (storeOf "old\n") ())
    let pulled := (pull k manifestPath).result (pushed.2.next ())
    reported? pushed.1 = some oneSecret ∧
      pushed.2.project.readFile oneSecret.localPath = .ok (utf8 "a\r\nb\n") ∧
      pulled.1.map Outcome.written = .ok [oneSecret.localPath] ∧
      pulled.2.project.readFile oneSecret.localPath = .ok (utf8 "a\nb\n") := by
  decide +kernel

end Small

end Both

end Sync

end ConfigKeeper
