import ConfigKeeper.Proofs.Secret.Candidates
import ConfigKeeper.Proofs.Secret.Locator

/-!
The comments that annotate an import. The pattern of a namespace, the reading of a comment and the choice
of what is supported are made one after another; together they take the comments of one form.
-/

namespace ConfigKeeper

open Text

variable {ns comment destination : String} {file : Path} {i : SecretInfo} {a : Annotation} {w r s v : List Char}

lemma toList_trimmed (s : String) : (trimmed s).toList = trim s.toList := by
  rw [trimmed, String.toList_ofList]

namespace Annotation

section Keys

/-- A namespace that reading a comment gives back: it is not empty, trimming leaves it alone and
nothing in it ends a key. -/
structure Clean (ns : String) : Prop where
  ne : ns ≠ ""
  trimmed : trimmed ns = ns
  unbroken : ¬ [':', ' '] <:+: ns.toList

lemma toList_keyOf (ns : String) : (keyOf ns).toList = ns.toList ++ ('/' :: keySuffix.toList) := by
  simp [keyOf]

lemma Clean.key_not_broken (h : Clean ns) (hw : ∀ c ∈ w, isBlank c = true) :
    ¬ [':', ' '] <:+: w ++ (keyOf ns).toList := by
  have hcolon : ':' ∉ w := fun hc => absurd (hw _ hc) (by decide)
  rw [toList_keyOf]
  refine no_pair_append (no_pair_of_not_mem hcolon) ?_ (.inl hcolon)
  exact no_pair_append h.unbroken (no_pair_of_not_mem (by decide)) (.inr (by simp))

lemma Clean.exists_key (h : Clean ns) :
    ∃ c r d, isBlank c = false ∧ isBlank d = false ∧ (keyOf ns).toList = c :: (r ++ [d]) := by
  have htrim : trim ns.toList = ns.toList := by rw [← toList_trimmed, h.trimmed]
  obtain ⟨c, r, hns⟩ : ∃ c r, ns.toList = c :: r :=
    List.exists_cons_of_ne_nil fun he => h.ne (String.toList_eq_nil_iff.1 he)
  rw [hns] at htrim
  have hc := isBlank_head htrim (List.cons_ne_nil c r)
  refine ⟨c, r ++ "/config-secrets-locatio".toList, 'n', hc, by decide, ?_⟩
  rw [toList_keyOf, hns]
  simp [keySuffix]

lemma Clean.trim_key (h : Clean ns) (hw : ∀ c ∈ w, isBlank c = true) :
    trim (w ++ (keyOf ns).toList) = (keyOf ns).toList := by
  obtain ⟨c, r, d, hc, hd, hkey⟩ := h.exists_key
  rw [hkey, trim_between hw hc hd]
  rfl

lemma Clean.trim_key_colon (h : Clean ns) (hw : ∀ c ∈ w, isBlank c = true) (t : List Char) :
    trim (w ++ (keyOf ns).toList ++ ':' :: t) = (keyOf ns).toList ++ ':' :: trimEnd t := by
  obtain ⟨c, r, d, hc, -, hkey⟩ := h.exists_key
  rw [hkey, List.append_assoc, List.cons_append, trim_between hw hc (by decide)]
  rfl

end Keys

section Reading

lemma removeFirst_mark (hs : comment.toList = '#' :: s) : removeFirst '#' comment.toList = s := by
  rw [hs]
  exact if_pos rfl

lemma decode?_eq_some (hs : comment.toList = '#' :: s) (h : decode? comment destination = some a) :
    ∃ x y, s = x ++ ':' :: ' ' :: y ∧ ¬ [':', ' '] <:+: y ∧ a.key = String.ofList (trim x) ∧
      a.raw = String.ofList (trim y) ∧ a.destination = trimmed destination := by
  rw [decode?, removeFirst_mark hs] at h
  split at h
  · next key value hparts =>
    obtain ⟨l, hl, rfl⟩ := Option.map_eq_some_iff.1 h
    obtain ⟨x, ys, hsplit, rfl, hys⟩ := List.map_eq_cons_iff.1 hparts
    obtain ⟨y, zs, rfl, rfl, hzs⟩ := List.map_eq_cons_iff.1 hys
    obtain rfl := List.map_eq_nil_iff.1 hzs
    obtain ⟨-, ⟨-, hone⟩ | ⟨t, rfl, ht⟩⟩ := splitWord_eq_cons (by simp) hsplit
    · cases hone
    · obtain ⟨hy, ⟨rfl, -⟩ | ⟨u, -, hu⟩⟩ := splitWord_eq_cons (by simp) ht
      · exact ⟨x, t, by simp, hy, rfl, rfl, rfl⟩
      · exact absurd hu (splitWord_ne_nil _ u)
  · cases h

lemma decode?_of_parts {x y : List Char} {l : Locator} (hs : comment.toList = '#' :: (x ++ ':' :: ' ' :: y))
    (hx : ¬ [':', ' '] <:+: x) (hy : ¬ [':', ' '] <:+: y)
    (hl : Locator.parse? (String.ofList (trim y)) = some l) (destination : String) :
    decode? comment destination =
      some ⟨String.ofList (trim x), l, trimmed destination, String.ofList (trim y)⟩ := by
  have hborder : ¬ [':', ' '] <:+: x ++ [':', ' '].dropLast :=
    no_pair_append hx (by decide) (.inr (by simp))
  have hsplit : splitWord [':', ' '] (x ++ ':' :: ' ' :: y) = [x, y] := by
    have hword := splitWord_append_word (by simp) hborder y
    rw [splitWord_of_absent hy, List.append_assoc] at hword
    exact hword
  rw [decode?, removeFirst_mark hs, hsplit]
  simp only [List.map_cons, List.map_nil, hl, Option.map_some]

lemma parts_of_key (h : Clean ns) (hw : ∀ c ∈ w, isBlank c = true) {x y rest : List Char}
    (hs : w ++ ((keyOf ns).toList ++ ':' :: rest) = x ++ ':' :: ' ' :: y) (hx : trim x = (keyOf ns).toList) :
    x = w ++ (keyOf ns).toList ∧ rest = ' ' :: y := by
  rw [← List.append_assoc] at hs
  rcases List.append_eq_append_iff.1 hs with ⟨more, rfl, hmore⟩ | ⟨more, hkey, hmore⟩
  · match more, hmore with
    | [], hmore =>
      exact ⟨by simp, (List.cons.inj hmore).2⟩
    | c :: more, hmore =>
      obtain ⟨rfl, -⟩ := List.cons.inj hmore
      rw [h.trim_key_colon hw] at hx
      simp at hx
  · match more, hmore with
    | [], hmore =>
      exact ⟨by simpa using hkey.symm, (List.cons.inj hmore).2.symm⟩
    | [c], hmore => simp at hmore
    | c :: d :: more, hmore =>
      obtain ⟨hc, hmore⟩ := List.cons.inj hmore
      obtain ⟨hd, -⟩ := List.cons.inj hmore
      rw [← hc, ← hd] at hkey
      exact absurd ⟨x, more, by simp [hkey]⟩ (h.key_not_broken hw)

end Reading

/-- The form of a comment that gives a secret: the key of a namespace and a locator, with white space
around both. -/
structure Form (ns comment v p n : String) : Prop where
  comment : ∃ w : String, (∀ c ∈ w.toList, isBlank c = true) ∧
    comment = "#" ++ w ++ ns ++ "/config-secrets-location: " ++ v
  unbroken : ¬ [':', ' '] <:+: v.toList
  locator : trimmed v = "vault:secret/" ++ p ++ "#" ++ n
  path : Locator.Part ['#', ':'] p
  name : Locator.Part ['#'] n

lemma toList_of_comment {w v : String} (h : comment = "#" ++ w ++ ns ++ "/config-secrets-location: " ++ v) :
    comment.toList = '#' :: (w.toList ++ ((keyOf ns).toList ++ ':' :: ' ' :: v.toList)) := by
  rw [h, toList_keyOf]
  simp [keySuffix]

lemma comment_of_toList {w y : List Char} (h : comment.toList = '#' :: (w ++ ((keyOf ns).toList ++ ':' :: ' ' :: y))) :
    comment = "#" ++ String.ofList w ++ ns ++ "/config-secrets-location: " ++ String.ofList y := by
  rw [← String.toList_inj, h, toList_keyOf]
  simp [keySuffix]

end Annotation

namespace ElixirConfig

open Annotation Elixir

/-- What is kept of a comment before an import: it has the pattern, it is read, and it is supported. -/
def Kept (ns : String) (file : Path) (comment destination : String) (i : SecretInfo) : Prop :=
  (commentHead? ns comment).isSome = true ∧ ∃ a, decode? comment destination = some a ∧ secretsOf ns file [a] = [i]

lemma secretsOf_single_iff : secretsOf ns file [a] = [i] ↔
    isSupported ns a = true ∧ i = .annotated a provider name file none := by
  rw [secretsOf]
  by_cases h : isSupported ns a = true <;> simp [h, eq_comm]

lemma isSupported_iff : isSupported ns a = true ↔
    a.key = keyOf ns ∧ a.locator.source = supportedSource ∧ a.locator.engine = supportedEngine := by
  simp [isSupported, and_assoc]

lemma toString_supported (p n : String) :
    Locator.toString ⟨"vault", "secret", p, n⟩ = "vault:secret/" ++ p ++ "#" ++ n := rfl

lemma form_of_kept (h : Clean ns) (hk : Kept ns file comment destination i) : ∃ v p n, Form ns comment v p n ∧
    i = ⟨trimmed v, ⟨"vault", "secret", p, n⟩, trimmed destination, trimmed v, provider, name, file⟩ := by
  obtain ⟨hhead, a, ha, hi⟩ := hk
  obtain ⟨w, rest, hw, hcomment⟩ := commentHead?_isSome_iff.1 hhead
  obtain ⟨x, y, hparts, hy, hkey, hraw, hdestination⟩ := decode?_eq_some hcomment ha
  obtain ⟨hsupported, rfl⟩ := secretsOf_single_iff.1 hi
  obtain ⟨hkeyOf, hsource, hengine⟩ := isSupported_iff.1 hsupported
  have hx : trim x = (keyOf ns).toList := by
    rw [← hkeyOf, hkey, String.toList_ofList]
  obtain ⟨rfl, rfl⟩ := parts_of_key h hw hparts hx
  have hread := parse?_of_decode? ha
  obtain ⟨hproper, htext⟩ := Locator.proper_of_parse? hread
  have htrim : trimmed (String.ofList y) = a.raw := by
    rw [trimmed, String.toList_ofList, hraw]
  have hlocator : a.locator = ⟨"vault", "secret", a.locator.path, a.locator.name⟩ := by
    rw [show "vault" = a.locator.source from hsource.symm, show "secret" = a.locator.engine from hengine.symm]
  refine ⟨String.ofList y, a.locator.path, a.locator.name, ⟨⟨String.ofList w, ?_, comment_of_toList hcomment⟩, ?_, ?_,
    hproper.path, hproper.name⟩, ?_⟩
  · rwa [String.toList_ofList]
  · rwa [String.toList_ofList]
  · rw [htrim, htext, ← toString_supported, ← hlocator]
  · rw [htrim, ← hdestination, SecretInfo.annotated, ← hlocator]
    rfl

lemma kept_of_form (h : Clean ns) {v p n : String} (hf : Form ns comment v p n) (file : Path) (destination : String) :
    Kept ns file comment destination
      ⟨trimmed v, ⟨"vault", "secret", p, n⟩, trimmed destination, trimmed v, provider, name, file⟩ := by
  obtain ⟨⟨w, hw, hcomment⟩, hv, hlocator, hp, hn⟩ := hf
  have hparts := toList_of_comment hcomment
  have hproper : Locator.Proper ⟨"vault", "secret", p, n⟩ :=
    ⟨by simp [Locator.Part], by simp [Locator.Part], hp, hn⟩
  have hread : Locator.parse? (String.ofList (trim v.toList)) = some ⟨"vault", "secret", p, n⟩ := by
    rw [← trimmed, hlocator, ← toString_supported, Locator.parse?_toString hproper]
  have hdecode : decode? comment destination =
      some ⟨keyOf ns, ⟨"vault", "secret", p, n⟩, trimmed destination, trimmed v⟩ := by
    rw [← List.append_assoc] at hparts
    rw [decode?_of_parts hparts (h.key_not_broken hw) hv hread, h.trim_key hw, String.ofList_toList, ← trimmed]
  refine ⟨commentHead?_isSome_iff.2 ⟨w.toList, _, hw, hparts⟩, _, hdecode, ?_⟩
  exact secretsOf_single_iff.2 ⟨isSupported_iff.2 ⟨rfl, rfl, rfl⟩, rfl⟩

lemma mem_secretsOf {annotations : List Annotation} :
    i ∈ secretsOf ns file annotations ↔ ∃ a ∈ annotations, secretsOf ns file [a] = [i] := by
  simp only [secretsOf_single_iff]
  simp only [secretsOf, List.mem_map, List.mem_filter, and_assoc, eq_comm]

lemma mem_extract {text : String} {found : List SecretInfo} (h : (extract ns file text).value = .ok found) :
    i ∈ found ↔ ∃ mark next check piece, (Source.parse text).tree.Directly (mark, next) ∧
      Imports next check piece ∧ Kept ns file mark.text piece.text i := by
  rw [value_extract] at h
  split at h
  · cases h
  · obtain rfl := Except.ok.inj h
    rw [mem_secretsOf]
    simp only [List.mem_filterMap, mem_candidates, Kept, commentHead?_isSome_iff, Annotation.readTree]
    constructor
    · rintro ⟨a, ⟨x, ⟨hhead, next, hdirectly, himports⟩, ha⟩, hi⟩
      exact ⟨x.comment, next, x.check, x.piece, hdirectly, himports, hhead, a, ha, hi⟩
    · rintro ⟨mark, next, check, piece, hdirectly, himports, hhead, a, ha, hi⟩
      exact ⟨a, ⟨⟨mark, check, piece⟩, ⟨hhead, next, hdirectly, himports⟩, ha⟩, hi⟩

/-- The comments that give a secret before an import are those of one form, whatever characters the
namespace has; the secret is the one that the locator names, and its key is that locator. What is found
in a source comes from such comments before its imports. -/
theorem comments_of_form (h : Clean ns) (file : Path) (i : SecretInfo) :
    (∀ comment destination, Kept ns file comment destination i ↔ ∃ v p n, Form ns comment v p n ∧
      i = ⟨trimmed v, ⟨"vault", "secret", p, n⟩, trimmed destination, trimmed v, "bunker", "elixir_config", file⟩) ∧
    ∀ text found, (extract ns file text).value = .ok found →
      (i ∈ found ↔ ∃ mark next check piece, (Source.parse text).tree.Directly (mark, next) ∧
        Imports next check piece ∧ Kept ns file mark.text piece.text i) := by
  refine ⟨fun comment destination => ⟨form_of_kept h, ?_⟩, fun text found => mem_extract⟩
  rintro ⟨v, p, n, hf, rfl⟩
  exact kept_of_form h hf file destination

def signs : String := "^.*$["

def signed : String := "#\t^.*$[/config-secrets-location:  vault:secret//g#k:x\t"

def signedSecret : SecretInfo :=
  ⟨"vault:secret//g#k:x", ⟨"vault", "secret", "/g", "k:x"⟩, "f", "vault:secret//g#k:x", provider, name,
    ⟨.relative, ["dev.exs"]⟩⟩

theorem comments_of_form_of_signs : Clean signs ∧ Kept signs ⟨.relative, ["dev.exs"]⟩ signed "f" signedSecret ∧
    ∃ found, (extract signs ⟨.relative, ["dev.exs"]⟩ (signed ++ "\nimport_config \"f\"\n")).value = .ok found ∧
      (signedSecret ∈ found ↔ ∃ mark next check piece,
        (Source.parse (signed ++ "\nimport_config \"f\"\n")).tree.Directly (mark, next) ∧ Imports next check piece ∧
          Kept signs ⟨.relative, ["dev.exs"]⟩ mark.text piece.text signedSecret) := by
  have hclean : Clean signs := ⟨by decide, by decide, by decide⟩
  obtain ⟨hkept, hfound⟩ := comments_of_form hclean ⟨.relative, ["dev.exs"]⟩ signedSecret
  refine ⟨hclean, (hkept signed "f").2 ⟨" vault:secret//g#k:x\t", "/g", "k:x", ?_, by decide⟩, [signedSecret], ?_, ?_⟩
  · have htab : ∀ c ∈ "\t".toList, isBlank c = true := List.forall_mem_singleton.2 (by decide)
    exact ⟨⟨"\t", htab, by decide⟩, by decide, by decide, by simp [Locator.Part], by simp [Locator.Part]⟩
  · decide +kernel
  · exact hfound _ _ (by decide +kernel)

end ElixirConfig

end ConfigKeeper
