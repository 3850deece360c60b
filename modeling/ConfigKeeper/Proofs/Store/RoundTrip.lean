import ConfigKeeper.Proofs.Store.Wire

namespace ConfigKeeper.Vault

variable {σ : Type}

/-- A server that keeps JSON objects: it shows the group of strings that it has at an address, in some
order, and accepts a body with a patch, which it merges into the group. -/
structure Holds (carry : Transport σ) (held : σ → String → Option Json) : Prop where
  get : ∀ s q data, q.method = "GET" → Json.Distinct data → held s q.url = some (.object (strings data)) →
    ∃ ms, ms.Perm (strings data) ∧ Shows (carry s q).1 ms
  patch : ∀ s q data, q.method = "PATCH" → q.contentType = some patchType → Groups.patchOf q.body = some data →
    (∃ status charset body, (carry s q).1 = .answered status charset body ∧ isSuccess status = true) ∧
      held (carry s q).2 q.url = some (((held s q.url).getD (.object [])).mergePatch data)

lemma texts_strings (data : Group) : texts (strings data) = data := by
  rw [texts, strings, List.map_map]
  exact List.map_id data

lemma mergePatch_group (old data : Group) :
    (Json.object (strings old)).mergePatch (.object (strings data)) = .object (strings (old.merge data)) := by
  rw [mergePatch_strings, Group.merge_eq_putAll]
  exact congrArg Json.object (Json.putAll_map Json.string old data)

theorem Groups.holds : Holds Groups.carry Groups.held where
  get := by
    intro g q data hq hd hheld
    rw [held_url] at hheld
    refine ⟨strings data, List.Perm.refl _, ?_⟩
    rw [carry, if_neg (by rw [hq]; decide), hheld]
    exact shows_strings hd
  patch := by
    intro g q data hq _ hdata
    rw [carry, if_pos hq, Groups.patch, hdata, held_url, held_url]
    exact ⟨⟨200, none, _, rfl, rfl⟩, Json.lookup_put g q.group _⟩

section Served

variable {carry : Transport σ} {held : σ → String → Option Json} {base token group : String} {q : Request} {s : σ}
variable {old data : Group} {codecs : Text.Codecs}

lemma update_of_accepted {status : Nat} {charset : Option String} {body : List UInt8}
    (hq : request base token group "PATCH" (patchBody data) (some patchType) = .ok q)
    (hreply : (carry s q).1 = .answered status charset body) (hok : isSuccess status = true) :
    (update codecs base carry s token group data).1.value = .ok () := by
  have haccept : (accept codecs base (.answered status charset body)).value = .ok (status, body) :=
    value_accept_of_success hok
  simp only [update, hq, send, hreply, Logged.value_bind, haccept]
  rfl

lemma update_holds (h : Holds carry held) (hq : request base token group "GET" "" none = .ok q)
    (hd : Json.Distinct data) (hold : (held s q.url).getD (.object []) = .object (strings old)) :
    (update codecs base carry s token group data).1.value = .ok () ∧
      held (update codecs base carry s token group data).2 q.url = some (.object (strings (old.merge data))) := by
  have hpatch := request_of_request hq "PATCH" (patchBody data) (some patchType)
  obtain ⟨⟨status, charset, body, hreply, hok⟩, hheld⟩ := h.patch s
    ⟨"PATCH", q.url, token, some patchType, patchBody data⟩ _ rfl rfl (patchOf_patchBody hd)
  refine ⟨update_of_accepted hpatch hreply hok, ?_⟩
  rw [update_of_request hpatch s, hheld, hold, mergePatch_group]

/-- What is fetched after an update is the old group with the sent values replacing or extending it. -/
theorem fetch_after_update (codecs : Text.Codecs) (h : Holds carry held)
    (hq : request (withoutEndSlashes base) token group "GET" "" none = .ok q)
    (ho : Json.Distinct old) (hd : Json.Distinct data)
    (hold : (held s q.url).getD (.object []) = .object (strings old)) :
    let updated := (store base carry codecs).update s token group data
    let fetched := (store base carry codecs).fetch updated.2 token group
    updated.1.value = .ok () ∧ ∃ g, fetched.1.value = .ok g ∧ g.Perm (old.merge data) ∧ Json.Distinct g ∧
      ∀ key, g.lookup key = (data.lookup key).or (old.lookup key) := by
  intro updated fetched
  have hupdated : updated = update codecs (withoutEndSlashes base) carry s token group data := rfl
  have hfetched : fetched = fetch codecs (withoutEndSlashes base) carry updated.2 token group := rfl
  obtain ⟨hupdate, hheld⟩ := update_holds h hq hd hold
  rw [← hupdated] at hupdate hheld
  have hmerged : Json.Distinct (old.merge data) := by
    rw [Group.merge_eq_putAll]
    exact ho.putAll data
  obtain ⟨ms, hperm, hshows⟩ := h.get updated.2 q _ (method_of_request hq).1 hmerged hheld
  have htexts : (texts ms).Perm (old.merge data) := by
    rw [← texts_strings (old.merge data)]
    exact hperm.map _
  have hvalue : fetched.1.value = .ok (texts ms) := by
    rw [hfetched]
    exact fetch_of_shows hq hshows
  refine ⟨hupdate, texts ms, hvalue, htexts, ?_, fun key => ?_⟩
  · exact (htexts.map Prod.fst).nodup_iff.2 hmerged
  · rw [Association.lookup_of_perm htexts hmerged, Group.merge_eq_putAll, Json.lookup_putAll hd]

end Served

def bunker : SecretStore Groups := store "http://b" Groups.carry

def former : Group := [("k", "old\n"), ("m", "")]

def sent : Group := [("k", "tab\t, bell\x07, \"quote\" and 🔐"), ("n", "")]

def stored : Groups := [("g", .object (strings former))]

theorem fetch_after_update_of_controls :
    (bunker.update stored "tok" "g" sent).1.value = .ok () ∧
      ∃ g, (bunker.fetch (bunker.update stored "tok" "g" sent).2 "tok" "g").1.value = .ok g ∧
        g.lookup "k" = sent.lookup "k" ∧ g.lookup "m" = some "" ∧ g.lookup "n" = some "" := by
  have hrequest : request (withoutEndSlashes "http://b") "tok" "g" "GET" "" none =
      .ok ⟨"GET", "http://b/v1/secret/data/g", "tok", none, ""⟩ := by decide +kernel
  have hpath : Request.group ⟨"GET", "http://b/v1/secret/data/g", "", none, ""⟩ = "g" := by decide +kernel
  have hheld : (Groups.held stored "http://b/v1/secret/data/g").getD (.object []) = .object (strings former) := by
    rw [Groups.held, hpath]
    rfl
  have hformer : Json.Distinct former := by decide
  have hsent : Json.Distinct sent := by decide
  have hround := fetch_after_update .unicode Groups.holds hrequest hformer hsent hheld
  rw [← bunker] at hround
  obtain ⟨hupdate, g, hfetch, -, -, hlookup⟩ := hround
  refine ⟨hupdate, g, hfetch, ?_, ?_, ?_⟩
  · rw [hlookup]
    decide
  · rw [hlookup]
    decide
  · rw [hlookup]
    decide

end ConfigKeeper.Vault
