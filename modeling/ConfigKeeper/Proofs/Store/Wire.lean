import ConfigKeeper.Proofs.Json.RoundTrip
import ConfigKeeper.Store.Server

/-!
A store behind requests, on a server that holds groups of JSON values: what a run fetches is the
group with every value as text, and what it sends is merged into the group as strings.
-/

namespace ConfigKeeper.Vault

variable {σ : Type}

def Shows (reply : Reply) (ms : List (String × Json)) : Prop :=
  ∃ status charset body j, reply = .answered status charset body ∧ isSuccess status = true ∧
    Json.parseBytes body = .ok j ∧ (j.field? "data").bind (Json.field? "data") = some (.object ms)

/-- A server with a group for each address. While it is up it gives the group that it holds and stays
as it is, and it merges the patch in a body into the group. -/
structure Serves (carry : Transport σ) (held : σ → String → Option Json) (up : σ → Prop) : Prop where
  get : ∀ s q ms, up s → q.method = "GET" → held s q.url = some (.object ms) → Shows (carry s q).1 ms
  stays : ∀ s q, up s → q.method = "GET" → up (carry s q).2 ∧ held (carry s q).2 = held s
  patch : ∀ s q data, up s → q.method = "PATCH" → Groups.patchOf q.body = some data →
    held (carry s q).2 q.url = some (((held s q.url).getD (.object [])).mergePatch data)

def texts (ms : List (String × Json)) : Group := ms.map fun e => (e.1, e.2.plainText)

def strings (data : Group) : List (String × Json) := data.map fun e => (e.1, .string e.2)

lemma distinct_texts {ms : List (String × Json)} (h : Json.Distinct ms) : Json.Distinct (texts ms) := by
  rwa [texts, Json.Distinct, Association.keys_map]

lemma distinct_strings {data : Group} (h : Json.Distinct data) : Json.Distinct (strings data) := by
  rwa [strings, Json.Distinct, Association.keys_map fun text => Json.string text]

lemma lookup_texts (ms : List (String × Json)) (key : String) :
    (texts ms).lookup key = (ms.lookup key).map Json.plainText := Association.lookup_map Json.plainText ms key

lemma lookup_strings (data : Group) (key : String) :
    (strings data).lookup key = (data.lookup key).map .string := Association.lookup_map Json.string data key

lemma readBack_strings {data : Group} (h : Json.Distinct data) : Json.ReadBack (.object (strings data)) := by
  refine Json.readBack_object (distinct_strings h) ?_
  rintro e he
  obtain ⟨x, -, rfl⟩ := List.mem_map.1 he
  exact Json.readBack_string x.2

lemma readBack_envelope {v : Json} (h : Json.ReadBack v) : Json.ReadBack (.object [("data", v)]) := by
  refine Json.readBack_object (List.nodup_singleton _) ?_
  rintro e he
  rw [List.mem_singleton.1 he]
  exact h

theorem patchOf_patchBody {data : Group} (h : Json.Distinct data) :
    Groups.patchOf (patchBody data) = some (.object (strings data)) := by
  have hparse : Json.parse (patchBody data).toList = .ok (.object [("data", .object (strings data))]) :=
    Json.parse_render (readBack_envelope (readBack_strings h))
  rw [Groups.patchOf, hparse]
  rfl

theorem shows_strings {data : Group} (h : Json.Distinct data) :
    Shows (Groups.accepted (.object (strings data))) (strings data) :=
  ⟨200, none, _, .object [("data", .object [("data", .object (strings data))])], rfl, rfl,
    Json.parseBytes_render (readBack_envelope (readBack_envelope (readBack_strings h))), rfl⟩

lemma mergePatch_strings (ms : List (String × Json)) (data : Group) :
    (Json.object ms).mergePatch (.object (strings data)) = .object (Json.putAll ms (strings data)) := by
  rw [Json.mergePatch]
  exact congrArg Json.object (Json.mergeMembers_strings ms data)

lemma readGroup_of_shows {status : Nat} {body : List UInt8} {j : Json} {ms : List (String × Json)}
    (hj : Json.parseBytes body = .ok j) (hms : (j.field? "data").bind (Json.field? "data") = some (.object ms)) :
    readGroup status body = .ok (texts ms) := by
  cases j with
  | object envelope =>
    have he : (envelope.lookup "data").bind (Json.field? "data") = some (.object ms) := hms
    rw [readGroup, hj]
    simp only [he]
    rfl
  | _ => cases hms

section Requests

variable {base token group method body : String} {contentType : Option String} {q : Request}

lemma method_of_request (h : request base token group method body contentType = .ok q) :
    q.method = method ∧ q.body = body := by
  rw [request] at h
  split at h
  · cases h
  · split at h
    · cases h
      exact ⟨rfl, rfl⟩
    · cases h

lemma request_of_request (h : request base token group method body contentType = .ok q)
    (method' body' : String) (contentType' : Option String) :
    request base token group method' body' contentType' = .ok ⟨method', q.url, token, contentType', body'⟩ := by
  rw [request] at h ⊢
  split at h
  · cases h
  · next url hu =>
    split at h
    · next ht =>
      cases h
      exact if_pos ht
    · cases h

end Requests

section Served

variable {carry : Transport σ} {held : σ → String → Option Json} {up : σ → Prop} {base token group : String}
  {codecs : Text.Codecs}

lemma fetch_of_request {q : Request} (hq : request base token group "GET" "" none = .ok q) (s : σ) :
    (fetch codecs base carry s token group).2 = (carry s q).2 ∧
      (fetch codecs base carry s token group).1.value = (accept codecs base (carry s q).1).value.bind
        fun answer => (readGroup answer.1 answer.2).mapError Failure.problem := by
  simp only [fetch, hq, send, true_and, Logged.value_bind]
  rcases (accept codecs base (carry s q).1).value with f | answer <;> rfl

lemma fetch_of_no_request {f : Failure} (hq : request base token group "GET" "" none = .error f) (s : σ) :
    (fetch codecs base carry s token group).2 = s ∧ (fetch codecs base carry s token group).1.value = .error f := by
  simp only [fetch, hq, send, Logged.value_bind, true_and]
  rfl

lemma value_accept_of_success {status : Nat} {charset : Option String} {body : List UInt8}
    (h : isSuccess status = true) :
    (accept codecs base (.answered status charset body)).value = .ok (status, body) := by
  rw [accept, if_pos h]
  rfl

lemma fetch_of_shows {q : Request} {s : σ} {ms : List (String × Json)}
    (hq : request base token group "GET" "" none = .ok q) (h : Shows (carry s q).1 ms) :
    (fetch codecs base carry s token group).1.value = .ok (texts ms) := by
  obtain ⟨status, charset, body, j, hreply, hok, hj, hdata⟩ := h
  rw [(fetch_of_request hq s).2, hreply, value_accept_of_success hok, Except.bind, readGroup_of_shows hj hdata]
  rfl

lemma update_of_request {q : Request} {data : Group}
    (hq : request base token group "PATCH" (patchBody data) (some patchType) = .ok q) (s : σ) :
    (update codecs base carry s token group data).2 = (carry s q).2 := by
  simp only [update, hq, send]

lemma fetch_stays (h : Serves carry held up) {s : σ} (hs : up s) (codecs : Text.Codecs) (base token group : String) :
    up (fetch codecs base carry s token group).2 ∧ held (fetch codecs base carry s token group).2 = held s := by
  cases hq : request base token group "GET" "" none with
  | error f =>
    rw [(fetch_of_no_request hq s).1]
    exact ⟨hs, rfl⟩
  | ok q =>
    rw [(fetch_of_request hq s).1]
    exact h.stays s q hs (method_of_request hq).1

lemma fetch_gives (h : Serves carry held up) {s : σ} (hs : up s) {g : Group}
    (hg : (fetch codecs base carry s token group).1.value = .ok g) :
    ∃ q, request base token group "GET" "" none = .ok q ∧
      ∀ ms, held s q.url = some (.object ms) → g = texts ms := by
  cases hq : request base token group "GET" "" none with
  | error f =>
    rw [(fetch_of_no_request hq s).2] at hg
    cases hg
  | ok q =>
    refine ⟨q, rfl, fun ms hms => ?_⟩
    have hshows : (fetch codecs base carry s token group).1.value = .ok (texts ms) :=
      fetch_of_shows hq (h.get s q ms hs (method_of_request hq).1 hms)
    rw [hg] at hshows
    exact Except.ok.inj hshows

lemma update_puts (codecs : Text.Codecs) (h : Serves carry held up) {s : σ} (hs : up s) {q : Request}
    {ms : List (String × Json)} {data : Group} (hq : request base token group "GET" "" none = .ok q)
    (hms : held s q.url = some (.object ms)) (hd : Json.Distinct data) :
    held (update codecs base carry s token group data).2 q.url = some (.object (Json.putAll ms (strings data))) := by
  have hpatch := h.patch s ⟨"PATCH", q.url, token, some patchType, patchBody data⟩ _ hs rfl (patchOf_patchBody hd)
  rw [hms, Option.getD_some, mergePatch_strings] at hpatch
  rw [update_of_request (request_of_request hq "PATCH" (patchBody data) (some patchType)) s]
  exact hpatch

end Served

namespace Groups

def held (g : Groups) (url : String) : Option Json := g.lookup (Request.group ⟨"GET", url, "", none, ""⟩)

lemma held_url (g : Groups) (q : Request) : held g q.url = g.lookup q.group := by
  simp only [held, Request.group]

def Readable (g : Groups) : Prop :=
  ∀ name ms, g.lookup name = some (.object ms) → Shows (accepted (.object ms)) ms

theorem serves : Serves carry held Readable where
  get := by
    intro g q ms hg hq hms
    rw [held_url] at hms
    rw [carry, if_neg (by rw [hq]; decide), hms]
    exact hg q.group ms hms
  stays := by
    intro g q hg hq
    rw [carry, if_neg (by rw [hq]; decide)]
    cases g.lookup q.group with
    | none => exact ⟨hg, rfl⟩
    | some group => exact ⟨hg, rfl⟩
  patch := by
    intro g q data hg hq hdata
    rw [carry, if_pos hq, Groups.patch, hdata, held_url, held_url]
    exact Json.lookup_put g q.group _

end Groups

end ConfigKeeper.Vault
