import ConfigKeeper.Proofs.Store.Wire
import ConfigKeeper.Proofs.Sync.SingleUpdate

/-!
What a push does to the other values of its group. They come to the run as texts and go back as
strings, so each of them is afterwards the string of its text.
-/

namespace ConfigKeeper.Sync

open Sync.Action Vault

variable {σ π : Type} {k : Context σ π} {root : Path} {carry : Transport σ} {held : σ → String → Option Json}
  {up : σ → Prop} {base : String} {codecs : Text.Codecs}

structure Sees (held : σ → String → Option Json) (up : σ → Prop) (base token : String)
    (groups : String → Option Json) (s : Session σ π) : Prop where
  up : up s.store
  same : held s.store = groups
  known : ∀ name g, s.cache.answer? name = some (.ok g) →
    ∃ q, request (withoutEndSlashes base) token name "GET" "" none = .ok q ∧
      ∀ ms, groups q.url = some (.object ms) → g = texts ms

lemma quiet_sees (held : σ → String → Option Json) (up : σ → Prop) (base token : String)
    (groups : String → Option Json) :
    Quiet (Sees (π := π) held up base token groups) (Sees held up base token groups) :=
  ⟨fun _ _ _ hs => ⟨hs.up, hs.same, hs.known⟩, fun _ hs => hs⟩

lemma group_sees (h : Serves carry held up) (hk : k.store = store base carry codecs) (token : String)
    (groups : String → Option Json) (name : String) :
    Keeps (Sees held up base token groups) (Sees held up base token groups) (Action.group k token name) := by
  apply Keeps.group_always (quiet_sees held up base token groups)
  rintro s hs -
  obtain ⟨hup, hsame⟩ := fetch_stays h hs.up codecs (withoutEndSlashes base) token name
  have hgives : ∀ g, (fetch codecs (withoutEndSlashes base) carry s.store token name).1.value = .ok g → _ :=
    fun g hg => fetch_gives h hs.up hg
  have hf : k.store.fetch s.store token name = fetch codecs (withoutEndSlashes base) carry s.store token name := by
    rw [hk]
    rfl
  rw [asked, hf]
  -- What fetching computes plays no part from here on.
  generalize fetch codecs (withoutEndSlashes base) carry s.store token name = answered at *
  refine ⟨hup, hsame.trans hs.same, fun key g hg => ?_⟩
  rcases Cache.answer?_of_note hg with hold | ⟨rfl, hnew⟩
  · exact hs.known key g hold
  · obtain ⟨q, hq, hms⟩ := hgives g hnew
    rw [hs.same] at hms
    exact ⟨q, hq, hms⟩

lemma survey_sees (h : Serves carry held up) (hk : k.store = store base carry codecs) {s s' : Session σ π} {v : Survey}
    (hs : up s.store) (hc : s.cache = .empty) (hv : (survey k root).result s = (.ok v, s')) :
    Sees held up base v.token (held s.store) s' := by
  refine survey_invariant (quiet_sees held up base v.token _) (group_sees h hk v.token _)
    ⟨hs, rfl, fun name g hg => ?_⟩ hv
  rw [hc] at hg
  cases hg

lemma Approves.sees (h : Serves carry held up) (hk : k.store = store base carry codecs) {s s' : Session σ π}
    {a : Approval} (hs : up s.store) (hc : s.cache = .empty) (ha : Approves k root s a s') :
    Sees held up base a.survey.token (held s.store) s' := by
  obtain ⟨s₁, hv, hu⟩ := ha.unmoved
  have h₁ := survey_sees h hk hs hc hv
  exact ⟨hu.store ▸ h₁.up, hu.store ▸ h₁.same, hu.cache ▸ h₁.known⟩

lemma lookup_put_sent (d : Drift) {ms : List (String × Json)} (hd : Json.Distinct ms) (key : String) :
    (Json.putAll ms (strings (d.sent (texts ms)))).lookup key =
      if key = d.secret.name then some (.string d.localText)
      else (ms.lookup key).map fun v => .string v.plainText := by
  have hsent : Json.Distinct (d.sent (texts ms)) := (distinct_texts hd).put d.secret.name d.localText
  rw [Json.lookup_putAll (distinct_strings hsent), lookup_strings, lookup_sent, lookup_texts]
  split
  · rfl
  · cases ms.lookup key <;> rfl

lemma restrung_iff (v : Json) : Json.string v.plainText = v ↔ ∃ text, v = .string text := by
  constructor
  · intro h
    exact ⟨v.plainText, h.symm⟩
  · rintro ⟨text, rfl⟩
    rfl

/-- A push that was confirmed, on a server that merges patches and that nobody else changes, sets the
value it is about. Each other value of the group becomes the string of its text: they all stay what
they were exactly if they were strings. -/
theorem siblings_after_push (h : Serves carry held up) (hk : k.store = store base carry codecs) {t : Project} {s₀ : σ}
    {p₀ : π} {a : Approval} {s : Session σ π} (hup : up s₀) (ha : Approves k root (.start t s₀ p₀) a s) :
    ∃ q, request (withoutEndSlashes base) a.survey.token a.entry.secret.groupPath "GET" "" none = .ok q ∧
      ∀ ms, held s₀ q.url = some (.object ms) → Json.Distinct ms →
        ∃ after, held ((push k root).result (.start t s₀ p₀)).2.store q.url = some (.object after) ∧
          after.lookup a.entry.secret.name = some (.string a.entry.localText) ∧
          (∀ key, key ≠ a.entry.secret.name →
            after.lookup key = (ms.lookup key).map fun v => .string v.plainText) ∧
          ((∀ key, key ≠ a.entry.secret.name → after.lookup key = ms.lookup key) ↔
            ∀ key v, key ≠ a.entry.secret.name → ms.lookup key = some v → ∃ text, v = .string text) := by
  have hsees := ha.sees h hk hup rfl
  obtain ⟨-, -, g, hg, -⟩ := ha.backed
  obtain ⟨q, hq, hms⟩ := hsees.known _ g hg
  refine ⟨q, hq, fun ms hheld hd => ?_⟩
  obtain rfl : g = texts ms := hms ms hheld
  obtain ⟨-, hstore, -⟩ := push_sends ha hg
  -- the whole group is sent as strings, so the server puts the string of its text in the place of each value
  have hsent : Json.Distinct (a.entry.sent (texts ms)) :=
    (distinct_texts hd).put a.entry.secret.name a.entry.localText
  have hput := update_puts codecs h hsees.up hq (by rw [hsees.same]; exact hheld) hsent
  have hlookup := lookup_put_sent a.entry hd
  have hother : ∀ key, key ≠ a.entry.secret.name →
      (Json.putAll ms (strings (a.entry.sent (texts ms)))).lookup key =
        (ms.lookup key).map fun v => .string v.plainText := fun key hkey => by
    rw [hlookup, if_neg hkey]
  refine ⟨_, ?_, by rw [hlookup, if_pos rfl], hother, ?_⟩
  · rw [hstore, hk]
    exact hput
  · constructor
    · intro hsame key v hkey hv
      have he := hsame key hkey
      rw [hother key hkey, hv, Option.map_some, Option.some.injEq] at he
      exact (restrung_iff v).1 he
    · intro hstrings key hkey
      rw [hother key hkey]
      cases hv : ms.lookup key with
      | none => rfl
      | some v => rw [Option.map_some, (restrung_iff v).2 (hstrings key v hkey hv)]

section Single

def bunker : Context Groups Unit := Context.plain (store "http://b" Groups.carry)

lemma bunker_store : bunker.store = store "http://b" Groups.carry := rfl

def single : Project := projectOf "vault:secret/g#k" "out" [(["out"], .file (utf8 "new\n"))]

def paired : Groups := [("g", .object (strings [("k", "old\n"), ("m", "same")]))]

def numbered : Groups := [("g", .object [("k", .string "old\n"), ("n", .int 5)])]

lemma paired_readable : Groups.Readable paired := by
  intro name ms h
  have hmem := Association.mem_of_lookup h
  rw [paired, List.mem_singleton, Prod.mk.injEq, Json.object.injEq] at hmem
  rw [hmem.2]
  exact shows_strings (by decide)

lemma bunker_request : request (withoutEndSlashes "http://b") "tok" "g" "GET" "" none =
    .ok ⟨"GET", "http://b/v1/secret/data/g", "tok", none, ""⟩ := by decide +kernel

lemma held_g (groups : Groups) : Groups.held groups "http://b/v1/secret/data/g" = groups.lookup "g" := by
  have hpath : Request.group ⟨"GET", "http://b/v1/secret/data/g", "", none, ""⟩ = "g" := by decide +kernel
  rw [Groups.held, hpath]

theorem siblings_after_push_of_strings :
    ∃ a s, Approves bunker manifestPath (.start single paired ()) a s ∧ Groups.Readable paired ∧
      ∃ after, Groups.held ((push bunker manifestPath).result (.start single paired ())).2.store
          "http://b/v1/secret/data/g" = some (.object after) ∧
        after.lookup "k" = some (.string a.entry.localText) ∧ after.lookup "m" = some (.string "same") := by
  have hrun : (reported? ((push bunker manifestPath).result (.start single paired ())).1).map
      (fun i => (i.groupPath, i.name)) = some ("g", "k") := by decide +kernel
  obtain ⟨i, hi, hg⟩ := Option.map_eq_some_iff.1 hrun
  obtain ⟨a, s, ha, rfl⟩ := approves_of_reported hi
  obtain ⟨hgroup, hname⟩ := Prod.mk.inj hg
  obtain ⟨q, hq, hafter⟩ := siblings_after_push Groups.serves bunker_store paired_readable ha
  have htoken : "tok" = a.survey.token := Except.ok.inj ha.token
  rw [hgroup, ← htoken, bunker_request] at hq
  obtain rfl := Except.ok.inj hq
  obtain ⟨after, hheld, hkey, hother, -⟩ := hafter (strings [("k", "old\n"), ("m", "same")]) (held_g paired)
    (by decide)
  rw [hname] at hkey hother
  exact ⟨a, s, ha, paired_readable, after, hheld, hkey, hother "m" (by decide)⟩

theorem number_restrung_by_push :
    (∃ a s, Approves bunker manifestPath (.start single numbered ()) a s ∧ a.entry.secret.name = "k") ∧
      (numbered.lookup "g").bind (Json.field? "n") = some (.int 5) ∧
      (((push bunker manifestPath).result (.start single numbered ())).2.store.lookup "g").bind
        (Json.field? "n") = some (.string "5") := by
  have hrun : (reported? ((push bunker manifestPath).result (.start single numbered ())).1).map
        (fun i => i.name) = some "k" ∧
      ((((push bunker manifestPath).result (.start single numbered ())).2.store.lookup "g").bind
        (Json.field? "n")).bind Json.string? = some "5" := by decide +kernel
  obtain ⟨i, hi, hname⟩ := Option.map_eq_some_iff.1 hrun.1
  obtain ⟨a, s, ha, rfl⟩ := approves_of_reported hi
  refine ⟨⟨a, s, ha, hname⟩, rfl, ?_⟩
  obtain ⟨v, hv, hs⟩ := Option.bind_eq_some_iff.1 hrun.2
  rw [hv]
  cases v with
  | string text => rw [Option.some.inj hs]
  | _ => cases hs

end Single

end ConfigKeeper.Sync
