import ConfigKeeper.Proofs.Json.Members
import ConfigKeeper.Proofs.Text.Trim
import ConfigKeeper.Settings

/-!
Settings that are read from their own values. All but the address of the store is as it was, and so is the
address if something stands between its scheme and the slashes at its end that does not end with white space.
-/

namespace ConfigKeeper.Settings

variable {ms : List (String × Json)} {s : Settings}

section Members

structure Reads (ms : List (String × Json)) (s : Settings) : Prop where
  storeUrl : Checked.optional ms urlField default.storeUrl checkUrl = .ok s.storeUrl
  token : Checked.optional ms tokenField default.token Checked.optionalString = .ok s.token
  ns : Checked.optional ms nsField default.ns checkNs = .ok s.ns
  config : Checked.optional ms configField default.configPatterns Checked.strings = .ok s.configPatterns
  lint : Checked.optional ms lintField default.lintPatterns Checked.strings = .ok s.lintPatterns
  exclude : Checked.optional ms excludeField default.excludePatterns Checked.strings = .ok s.excludePatterns
  timeout : Checked.optional ms timeoutField default.requestTimeout checkTimeout = .ok s.requestTimeout
  context : Checked.optional ms contextField default.contextLines checkContext = .ok s.contextLines
  expected : Checked.unexpected ms fields = []

lemma ofMembers_eq_ok_iff : ofMembers ms = .ok s ↔ Reads ms s := by
  constructor
  · intro h
    unfold ofMembers at h
    dsimp only at h
    split at h
    · cases h
      constructor <;> assumption
    · cases h
  · intro h
    simp only [ofMembers, h.storeUrl, h.token, h.ns, h.config, h.lint, h.exclude, h.timeout, h.context, h.expected]

structure Holds (ms : List (String × Json)) (s : Settings) : Prop where
  lookup : ∀ name ∈ fields, ms.lookup name = s.toMembers.lookup name
  expected : Checked.unexpected ms fields = []

lemma unexpected_eq_nil_iff : Checked.unexpected ms fields = [] ↔ ∀ name ∈ ms.map Prod.fst, name ∈ fields := by
  simp [Checked.unexpected, List.filter_eq_nil_iff]

lemma holds_toMembers (s : Settings) : Holds s.toMembers s := ⟨fun _ _ => rfl, rfl⟩

lemma mem_names_putAll {members added : List (String × Json)} {name : String}
    (h : name ∈ (Json.putAll members added).map Prod.fst) :
    name ∈ members.map Prod.fst ∨ name ∈ added.map Prod.fst := by
  induction added generalizing members with
  | nil => exact .inl h
  | cons x xs ih =>
    rw [Json.putAll_cons] at h
    obtain hput | hxs := ih h
    · by_cases hx : x.1 ∈ members.map Prod.fst
      · rw [Json.names_put_of_mem hx] at hput
        exact .inl hput
      · rw [Json.put_of_not_mem hx, List.map_append] at hput
        exact (List.mem_append.1 hput).imp_right fun hname => by simp [List.mem_singleton.1 hname]
    · exact .inr (List.mem_cons_of_mem _ hxs)

lemma names_environmentMembers (env : Environment) :
    ∀ name ∈ (environmentMembers env).map Prod.fst, name ∈ fields := by
  intro name hname
  simp only [environmentMembers, List.map_append, List.mem_append, List.mem_map, Option.mem_toList,
    Option.map_eq_some_iff] at hname
  obtain ((⟨_, ⟨_, -, rfl⟩, rfl⟩ | ⟨_, ⟨_, -, rfl⟩, rfl⟩) | ⟨_, ⟨_, -, rfl⟩, rfl⟩) := hname <;> simp [fields]

lemma holds_read (env : Environment) (s : Settings) :
    Holds (Json.putAll (environmentMembers env) s.toMembers) s := by
  have hnames : s.toMembers.map Prod.fst = fields := rfl
  constructor
  · intro name hname
    have hdistinct : Json.Distinct s.toMembers := by
      rw [Json.Distinct, hnames]
      decide
    obtain ⟨v, hv⟩ := Association.lookup_isSome_iff_mem.2 (hnames ▸ hname)
    rw [Json.lookup_putAll hdistinct, hv, Option.some_or]
  · rw [unexpected_eq_nil_iff]
    intro name hname
    rcases mem_names_putAll hname with henv | hown
    · exact names_environmentMembers env name henv
    · exact hnames ▸ hown

end Members

section Checks

structure Sound (s : Settings) : Prop where
  ns_ne : s.ns ≠ ""
  ns_trimmed : trimmed s.ns = s.ns
  positive : isPositive s.requestTimeout = true

lemma trimmed_trimmed (text : String) : trimmed (trimmed text) = trimmed text := by
  rw [trimmed, trimmed, String.toList_ofList, Text.trim_trim]

lemma checkNs_string (loc : List LocationItem) (text : String) : checkNs loc (.string text) =
    if trimmed text = "" then Checked.fail loc (.refused "annotation_namespace cannot be empty") (.string text)
    else .ok (trimmed text) := by
  simp only [checkNs, Checked.string, bind, Except.bind, String.isEmpty_iff]

lemma checkNs_sound {loc : List LocationItem} {v : Json} {ns : String} (h : checkNs loc v = .ok ns) :
    ns ≠ "" ∧ trimmed ns = ns := by
  cases v with
  | string text =>
    rw [checkNs_string] at h
    split at h
    · cases h
    · next hne =>
      cases h
      exact ⟨hne, trimmed_trimmed text⟩
  | _ => cases h

lemma checkTimeout_sound {loc : List LocationItem} {v : Json} {x : Double} (h : checkTimeout loc v = .ok x) :
    isPositive x = true := by
  rw [checkTimeout] at h
  cases hnumber : Checked.number loc v with
  | error vs =>
    rw [hnumber] at h
    cases h
  | ok y =>
    rw [hnumber] at h
    change (if isPositive y then _ else _) = _ at h
    split at h
    · next hpositive =>
      cases h
      exact hpositive
    · cases h

lemma checkContext_int (loc : List LocationItem) (n : ℕ) : checkContext loc (.int n) = .ok n := by
  have hcheck : checkContext loc (.int n) =
      if 0 ≤ (n : ℤ) then .ok (n : ℤ).toNat else Checked.fail loc (.notAtLeast 0) (.int n) := rfl
  rw [hcheck, if_pos (Int.natCast_nonneg n), Int.toNat_natCast]

lemma optional_cases {α : Type} {name : String} {own x : α} {check : List LocationItem → Json → Checked α}
    (h : Checked.optional ms name own check = .ok x) : (∃ v, check [.field name] v = .ok x) ∨ x = own := by
  rw [Checked.optional] at h
  split at h
  · exact .inl ⟨_, h⟩
  · exact .inr (Except.ok.inj h).symm

lemma Reads.sound (h : Reads ms s) : Sound s := by
  have hns : s.ns ≠ "" ∧ trimmed s.ns = s.ns := by
    obtain ⟨v, hv⟩ | hown := optional_cases h.ns
    · exact checkNs_sound hv
    · rw [hown]
      decide
  refine ⟨hns.1, hns.2, ?_⟩
  obtain ⟨v, hv⟩ | hown := optional_cases h.timeout
  · exact checkTimeout_sound hv
  · rw [hown]
    decide

lemma each_strings (f : ℕ → List LocationItem) (i : ℕ) (texts : List String) :
    Checked.each (fun i v => Checked.string (f i) v) i (texts.map .string) = .ok texts := by
  induction texts generalizing i with
  | nil => rfl
  | cons text texts ih =>
    rw [List.map_cons, Checked.each, ih]
    rfl

lemma Holds.optional {α : Type} {name : String} {v : Json} (h : Holds ms s) (hname : name ∈ fields)
    (hv : s.toMembers.lookup name = some v) (own : α) (check : List LocationItem → Json → Checked α) :
    Checked.optional ms name own check = check [.field name] v := by
  rw [Checked.optional, h.lookup name hname, hv]

lemma Holds.strings {name : String} {texts : List String} (h : Holds ms s) (hname : name ∈ fields)
    (hv : s.toMembers.lookup name = some (.array (texts.map .string))) (own : List String) :
    Checked.optional ms name own Checked.strings = .ok texts := by
  rw [h.optional hname hv, Checked.strings, each_strings]

lemma ofMembers_of_holds (h : Holds ms s) (hs : Sound s) :
    ofMembers ms = (checkUrl [.field urlField] (.string s.storeUrl)).map fun url => { s with storeUrl := url } := by
  have hurl :
      Checked.optional ms urlField default.storeUrl checkUrl = checkUrl [.field urlField] (.string s.storeUrl) :=
    h.optional (by decide) rfl _ _
  have htoken : Checked.optional ms tokenField default.token Checked.optionalString = .ok s.token := by
    rw [h.optional (by decide) rfl]
    cases s.token <;> rfl
  have hns : Checked.optional ms nsField default.ns checkNs = .ok s.ns := by
    rw [h.optional (by decide) rfl, checkNs_string, hs.ns_trimmed, if_neg hs.ns_ne]
  have hconfig : Checked.optional ms configField default.configPatterns Checked.strings = .ok s.configPatterns :=
    h.strings (by decide) rfl _
  have hlint : Checked.optional ms lintField default.lintPatterns Checked.strings = .ok s.lintPatterns :=
    h.strings (by decide) rfl _
  have hexclude : Checked.optional ms excludeField default.excludePatterns Checked.strings = .ok s.excludePatterns :=
    h.strings (by decide) rfl _
  have htimeout : Checked.optional ms timeoutField default.requestTimeout checkTimeout = .ok s.requestTimeout := by
    rw [h.optional (by decide) rfl]
    exact if_pos hs.positive
  have hcontext : Checked.optional ms contextField default.contextLines checkContext = .ok s.contextLines := by
    rw [h.optional (by decide) rfl]
    exact checkContext_int _ _
  simp only [ofMembers, hurl, htoken, hns, hconfig, hlint, hexclude, htimeout, hcontext, h.expected]
  cases checkUrl [.field urlField] (.string s.storeUrl) with
  | ok url => rfl
  | error vs => simp [Checked.violations, Except.map]

end Checks

section Addresses

/-- A scheme, something that ends neither with a slash nor with white space, and slashes. -/
def Addressed (text : List Char) : Prop :=
  ∃ w ∈ urlSchemes, ∃ host c n, text = w.toList ++ host ++ c :: List.replicate n '/' ∧ c ≠ '/' ∧
    Text.isBlank c = false

/-- The address without white space around it, the one that stands for it if none is given. -/
def givenUrl (ms : List (String × Json)) : List Char :=
  match ms.lookup urlField with
  | some (.string text) => Text.trim text.toList
  | _ => default.storeUrl.toList

def withoutSlashes (text : List Char) : List Char := Text.dropEndWhile (· = '/') text

lemma hasUrlScheme_iff {url : String} : hasUrlScheme url = true ↔ ∃ w ∈ urlSchemes, w.toList <+: url.toList := by
  simp only [hasUrlScheme, List.any_eq_true, Text.startsWith_iff]

lemma scheme_form {w : String} (hw : w ∈ urlSchemes) : ∃ u, w.toList = 'h' :: (u ++ ['/']) := by
  simp only [urlSchemes, List.mem_cons, List.not_mem_nil, or_false] at hw
  rcases hw with rfl | rfl
  · exact ⟨"ttp:/".toList, by decide⟩
  · exact ⟨"ttps:/".toList, by decide⟩

lemma addressed_iff (text : List Char) :
    (∃ w ∈ urlSchemes, w.toList <+: withoutSlashes text) ∧ Text.trim (withoutSlashes text) = withoutSlashes text ↔
      Addressed text := by
  constructor
  · rintro ⟨⟨w, hw, rest, hrest⟩, htrim⟩
    rcases List.eq_nil_or_concat rest with rfl | ⟨host, c, rfl⟩
    · -- a scheme ends with a slash, and no slash is left at the end
      obtain ⟨u, hu⟩ := scheme_form hw
      have hbare : withoutSlashes text = 'h' :: u ++ ['/'] := by rw [← hrest, hu, List.append_nil]; rfl
      exact absurd (Text.last_dropEndWhile hbare) (by decide)
    · rw [List.concat_eq_append, ← List.append_assoc] at hrest
      obtain ⟨n, hn⟩ := Text.exists_dropped '/' text
      refine ⟨w, hw, host, c, n, ?_, ?_, Text.isBlank_last (htrim.trans hrest.symm)⟩
      · rw [hn, ← withoutSlashes, ← hrest]
        simp
      · simpa using Text.last_dropEndWhile hrest.symm
  · rintro ⟨w, hw, host, c, n, rfl, hc, hblank⟩
    have hbare : withoutSlashes (w.toList ++ host ++ c :: List.replicate n '/') = w.toList ++ host ++ [c] :=
      Text.dropEndWhile_append hc _ n
    rw [hbare]
    refine ⟨⟨w, hw, host ++ [c], by simp⟩, ?_⟩
    obtain ⟨u, hu⟩ := scheme_form hw
    rw [hu]
    have htrim := Text.trim_between (w := []) (by simp) (c := 'h') (by decide) hblank (u ++ ['/'] ++ host) []
    simpa [Text.trimEnd] using htrim

lemma checkUrl_string (loc : List LocationItem) (url : String) : checkUrl loc (.string url) =
    if hasUrlScheme (trimmed url) = true then .ok (String.ofList (withoutSlashes (trimmed url).toList))
    else Checked.fail loc (.refused ("vault_api_url must be an http(s) URL, got: " ++ trimmed url)) (.string url) := by
  simp only [checkUrl, Checked.string, bind, Except.bind, withoutSlashes]

lemma checkUrl_eq_self_iff (loc : List LocationItem) {url : String} (hbare : withoutSlashes url.toList = url.toList) :
    checkUrl loc (.string url) = .ok url ↔ hasUrlScheme url = true ∧ trimmed url = url := by
  rw [checkUrl_string]
  constructor
  · intro h
    split at h
    · next hscheme =>
      have hurl : withoutSlashes (Text.trim url.toList) = url.toList := by
        have hlist := congrArg String.toList (Except.ok.inj h)
        rwa [String.toList_ofList, trimmed, String.toList_ofList] at hlist
      have hlength : url.toList.length ≤ (Text.trim url.toList).length := by
        have hprefix := (Text.isPrefix_dropEndWhile (· = '/') (Text.trim url.toList)).length_le
        rwa [← withoutSlashes, hurl] at hprefix
      have htrim : trimmed url = url := by
        rw [trimmed, (Text.trim_sublist url.toList).eq_of_length_le hlength, String.ofList_toList]
      exact ⟨htrim ▸ hscheme, htrim⟩
    · cases h
  · rintro ⟨hscheme, htrim⟩
    rw [htrim, if_pos hscheme, hbare, String.ofList_toList]

lemma Reads.storeUrl_eq (h : Reads ms s) : s.storeUrl.toList = withoutSlashes (givenUrl ms) := by
  have hread := h.storeUrl
  rw [Checked.optional] at hread
  rw [givenUrl]
  cases hlookup : ms.lookup urlField with
  | none =>
    rw [hlookup] at hread
    rw [← Except.ok.inj hread]
    decide
  | some v =>
    rw [hlookup] at hread
    cases v with
    | string text =>
      simp only [checkUrl_string] at hread
      split at hread
      · rw [← Except.ok.inj hread, String.toList_ofList, trimmed, String.toList_ofList]
      · cases hread
    | _ => cases hread

end Addresses

/-- Reading settings from their own values, in whatever environment, can change nothing but the address, and it
leaves the address alone exactly if the one that was given is proper. The namespace is always trimmed. -/
theorem settings_stable_iff (h : ofMembers ms = .ok s) :
    (ofMembers s.toMembers = .ok s ↔ Addressed (givenUrl ms)) ∧
      (hasUrlScheme s.storeUrl = true ∧ trimmed s.storeUrl = s.storeUrl ↔ Addressed (givenUrl ms)) ∧
      ¬ ['/'] <:+ s.storeUrl.toList ∧ s.ns ≠ "" ∧ trimmed s.ns = s.ns ∧
      (ofMembers s.toMembers =
        (checkUrl [.field urlField] (.string s.storeUrl)).map fun url => { s with storeUrl := url }) ∧
      ∀ env, read env s.toMembers = ofMembers s.toMembers := by
  have hreads := ofMembers_eq_ok_iff.1 h
  have hsound := hreads.sound
  have hagain := ofMembers_of_holds (holds_toMembers s) hsound
  have hurl := hreads.storeUrl_eq
  -- the slashes are gone after the first check, so the second one has only the scheme and the white space to object to
  have hbare : withoutSlashes s.storeUrl.toList = s.storeUrl.toList := by
    rw [hurl]
    exact Text.dropEndWhile_dropEndWhile _ _
  have hproper : hasUrlScheme s.storeUrl = true ∧ trimmed s.storeUrl = s.storeUrl ↔ Addressed (givenUrl ms) := by
    rw [← addressed_iff, ← hurl, hasUrlScheme_iff, ← String.toList_inj, trimmed, String.toList_ofList]
  refine ⟨?_, hproper, ?_, hsound.ns_ne, hsound.ns_trimmed, hagain, fun env => ?_⟩
  · rw [← hproper, ← checkUrl_eq_self_iff [.field urlField] hbare, hagain]
    cases hcheck : checkUrl [.field urlField] (.string s.storeUrl) with
    | error vs => simp [Except.map]
    | ok url =>
      simp only [Except.map, Except.ok.injEq]
      exact ⟨fun hs => congrArg Settings.storeUrl hs, fun hs => by rw [hs]⟩
  · rintro ⟨front, hfront⟩
    exact absurd (Text.last_dropEndWhile (hurl.symm.trans hfront.symm)) (by decide)
  · rw [hagain, ← ofMembers_of_holds (holds_read env s) hsound]
    rfl

def spacedMembers : List (String × Json) := [(urlField, .string " https://vault.test// "), (nsField, .string " dev ")]

theorem settings_stable_iff_of_spaces : ∃ s, ofMembers spacedMembers = .ok s ∧ Addressed (givenUrl spacedMembers) ∧
    ofMembers s.toMembers = .ok s := by
  have hread : ofMembers spacedMembers = .ok { default with storeUrl := "https://vault.test", ns := "dev" } := by
    decide
  have hgiven : Addressed (givenUrl spacedMembers) :=
    ⟨"https://", by decide, "vault.tes".toList, 't', 2, by decide, by decide, by decide⟩
  exact ⟨_, hread, hgiven, (settings_stable_iff hread).1.2 hgiven⟩

theorem unstable_addresses :
    (∃ s, ofMembers [(urlField, .string "https://vault.test /")] = .ok s ∧ trimmed s.storeUrl ≠ s.storeUrl ∧
      ofMembers s.toMembers ≠ .ok s) ∧
    ∃ s, ofMembers [(urlField, .string "https://")] = .ok s ∧ hasUrlScheme s.storeUrl = false ∧
      ∃ vs, ofMembers s.toMembers = .error vs :=
  ⟨⟨{ default with storeUrl := "https://vault.test " }, by decide, by decide, by decide⟩,
    { default with storeUrl := "https:" }, by decide, by decide,
    [⟨[.field urlField], .refused "vault_api_url must be an http(s) URL, got: https:", .ofJson (.string "https:")⟩],
    by decide⟩

end ConfigKeeper.Settings
