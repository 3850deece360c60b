import ConfigKeeper.Proofs.Secret.Entries
import ConfigKeeper.Proofs.Sync.Isolation
import ConfigKeeper.Proofs.Text.Split

namespace ConfigKeeper

namespace Locator

variable {text : String} {l m : Locator} {s e p : List Char}

def Part (barred : List Char) (s : String) : Prop := s ≠ "" ∧ ∀ c ∈ barred, c ∉ s.toList

structure Proper (l : Locator) : Prop where
  source : Part ['#', ':'] l.source
  engine : Part ['#', ':', '/'] l.engine
  path : Part ['#', ':'] l.path
  name : Part ['#'] l.name

lemma cutSlash_append (h : '/' ∉ e) (p : List Char) : cutSlash (e ++ '/' :: p) = (e, p) := by
  have he : ∀ c ∈ e, (c != '/') = true := fun c hc => bne_iff_ne.2 fun hs => h (hs ▸ hc)
  rw [cutSlash, List.takeWhile_append_of_pos he, List.dropWhile_append_of_pos he]
  simp

lemma cutSlash_of_path (h : cutSlash s = (e, p)) (hp : p ≠ []) : s = e ++ '/' :: p ∧ '/' ∉ e := by
  obtain ⟨rfl, rfl⟩ := Prod.mk.inj h
  have hslash : '/' ∉ s.takeWhile (· != '/') := fun hm => by
    simpa using List.all_eq_true.1 (List.all_takeWhile (l := s)) _ hm
  refine ⟨?_, hslash⟩
  have hcut := List.takeWhile_append_dropWhile (p := (· != '/')) (l := s)
  cases hd : s.dropWhile (· != '/') with
  | nil => simp [hd] at hp
  | cons c r =>
    have hc : c = '/' := by simpa [hd] using List.head?_dropWhile_not (· != '/') s
    rw [hd, hc] at hcut
    simpa using hcut.symm

lemma toList_toString (l : Locator) : l.toString.toList =
    (l.source.toList ++ ':' :: (l.engine.toList ++ '/' :: l.path.toList)) ++ '#' :: l.name.toList := by
  simp [toString]

lemma isEmpty_toList_eq_false (h : text ≠ "") : text.toList.isEmpty = false := by
  rw [← Bool.not_eq_true, List.isEmpty_iff, String.toList_eq_nil_iff]
  exact h

lemma parse?_toString (h : l.Proper) : parse? l.toString = some l := by
  have hs := h.source.2
  have he := h.engine.2
  have hp := h.path.2
  simp only [List.forall_mem_cons] at hs he hp
  have hplace : '#' ∉ l.source.toList ++ ':' :: (l.engine.toList ++ '/' :: l.path.toList) := by
    simp [hs.1, he.1, hp.1]
  have hrest : ':' ∉ l.engine.toList ++ '/' :: l.path.toList := by
    simp [he.2.1, hp.2.1]
  rw [parse?, toList_toString, Text.splitAt_eq_pair_iff.2 ⟨rfl, hplace, h.name.2 '#' (by simp)⟩]
  simp only [Text.splitAt_eq_pair_iff.2 ⟨rfl, hs.2.1, hrest⟩, cutSlash_append he.2.2.1,
    isEmpty_toList_eq_false h.source.1, isEmpty_toList_eq_false h.engine.1, isEmpty_toList_eq_false h.path.1,
    isEmpty_toList_eq_false h.name.1]
  simp

lemma part_ofList {barred s : List Char} (hs : s ≠ []) (h : ∀ c ∈ barred, c ∉ s) : Part barred (String.ofList s) := by
  refine ⟨fun he => hs ?_, by rwa [String.toList_ofList]⟩
  rw [← String.toList_ofList (l := s), he]
  rfl

lemma proper_of_parse? (h : parse? text = some l) : l.Proper ∧ text = l.toString := by
  rw [parse?] at h
  split at h
  · next place name hplace =>
    split at h
    · next source rest hrest =>
      obtain ⟨engine, path, hcut⟩ : ∃ e p, cutSlash rest = (e, p) := ⟨_, _, rfl⟩
      obtain ⟨htext, hashes, hname⟩ := Text.splitAt_eq_pair_iff.1 hplace
      obtain ⟨rfl, hsource, hcolons⟩ := Text.splitAt_eq_pair_iff.1 hrest
      simp only [hcut] at h
      split at h
      · cases h
      · next hne =>
        simp only [Bool.or_eq_true, List.isEmpty_iff, not_or] at hne
        obtain ⟨⟨⟨hs, he⟩, hp⟩, hn⟩ := hne
        obtain ⟨rfl, hslash⟩ := cutSlash_of_path hcut hp
        simp only [List.mem_append, List.mem_cons, not_or] at hashes hcolons
        obtain rfl := Option.some.inj h
        refine ⟨⟨part_ofList hs ?_, part_ofList he ?_, part_ofList hp ?_, part_ofList hn ?_⟩, ?_⟩
        · simpa using ⟨hashes.1, hsource⟩
        · simpa using ⟨hashes.2.2.1, hcolons.1, hslash⟩
        · simpa using ⟨hashes.2.2.2.2, hcolons.2.2⟩
        · simpa using hname
        · rw [← String.toList_inj, toList_toString, htext]
          simp
    · cases h
  · cases h

lemma parse?_eq_some_iff : parse? text = some l ↔ l.Proper ∧ text = l.toString := by
  refine ⟨proper_of_parse?, ?_⟩
  rintro ⟨hl, rfl⟩
  exact parse?_toString hl

lemma toString_injective (hl : l.Proper) (hm : m.Proper) (h : l.toString = m.toString) : l = m := by
  rw [← Option.some_inj, ← parse?_toString hl, h, parse?_toString hm]

end Locator

variable {ns : String} {t : Project} {file : Path} {found : List SecretInfo} {i : SecretInfo}

def SecretInfo.ReadsBack (i : SecretInfo) : Prop :=
  i.locator.toString = i.raw ∧ Locator.parse? i.raw = some i.locator

lemma readsBack_of_parse? (h : Locator.parse? i.raw = some i.locator) : i.ReadsBack :=
  ⟨(Locator.proper_of_parse? h).2.symm, h⟩

lemma Annotation.parse?_of_decode? {comment destination : String} {a : Annotation}
    (h : decode? comment destination = some a) : Locator.parse? a.raw = some a.locator := by
  rw [decode?] at h
  split at h
  · obtain ⟨l, hl, rfl⟩ := Option.map_eq_some_iff.1 h
    exact hl
  · cases h

namespace ElixirConfig

lemma value_extract (ns : String) (file : Path) (text : String) : (extract ns file text).value =
    if (Elixir.Source.parse text).hasError then .error .syntaxErrors
    else .ok (secretsOf ns file <| Annotation.readTree ns (Elixir.Source.parse text).tree) := by
  rw [extract, Logged.value_bind, Annotation.read]
  generalize Elixir.Source.parse text = source
  cases source.hasError <;> rfl

lemma readsBack_of_extract {text : String} (h : (extract ns file text).value = .ok found) (hi : i ∈ found) :
    i.ReadsBack := by
  rw [value_extract] at h
  split at h
  · cases h
  · obtain rfl := Except.ok.inj h
    obtain ⟨a, ha, rfl⟩ := List.mem_map.1 hi
    obtain ⟨_, -, hdecode⟩ := List.mem_filterMap.1 (List.mem_of_mem_filter ha)
    exact readsBack_of_parse? <| Annotation.parse?_of_decode? hdecode

lemma text_of_extractFile (h : (extractFile ns t file).value = .ok found) :
    ∃ text, (t.readSource file).value = .ok text ∧ (extract ns file text).value = .ok found := by
  rw [value_extractFile] at h
  cases hr : (t.readSource file).value with
  | error f =>
    rw [hr] at h
    cases h
  | ok text =>
    rw [hr] at h
    refine ⟨text, rfl, ?_⟩
    cases hx : (extract ns file text).value with
    | error p =>
      simp only [hx] at h
      cases h
    | ok is =>
      simp only [hx] at h
      exact congrArg Except.ok (Except.ok.inj h)

end ElixirConfig

namespace Manifest

lemma readsBack_of_extract {text : String} (h : (extract file text).value = .ok found) (hi : i ∈ found) :
    i.ReadsBack := by
  obtain ⟨items, -, hread⟩ := items_of_extract h
  obtain ⟨e, -, he⟩ := (mem_secretsOf hread).1 hi
  obtain ⟨s, hs, hsecret⟩ := Entry.extract_entry_some_iff.1 he
  obtain ⟨hl, -, hr, -⟩ := Entry.secret_repeats hsecret
  apply readsBack_of_parse?
  rw [hr, hl, (Entry.offers_of_read hs).1.locator]

lemma text_of_extractFile (h : (extractFile t file).value = .ok found) :
    ∃ text, (t.readSource file).value = .ok text ∧ (extract file text).value = .ok found := by
  rw [value_extractFile] at h
  cases hr : (t.readSource file).value with
  | error f =>
    rw [hr] at h
    cases h
  | ok text =>
    rw [hr] at h
    exact ⟨text, rfl, h⟩

end Manifest

lemma readsBack_of_standard {e : Extractor} (he : e ∈ Extractor.standard ns)
    (h : (e.extract t file).value = .ok found) (hi : i ∈ found) : i.ReadsBack := by
  rw [Extractor.standard, List.mem_pair] at he
  rcases he with rfl | rfl
  · obtain ⟨text, -, hx⟩ := ElixirConfig.text_of_extractFile h
    exact ElixirConfig.readsBack_of_extract hx hi
  · obtain ⟨text, -, hx⟩ := Manifest.text_of_extractFile h
    exact Manifest.readsBack_of_extract hx hi

namespace Locator

/-- A text is a locator exactly if it has the form `source:engine/path#name` with proper parts. It has
this form in one way only, and its parts are what it is read as. So the locator of a secret, whichever
extractor found it, spells the text that the secret was read from. -/
theorem locators_read_back :
    (∀ (text : String) (l : Locator), parse? text = some l ↔
      l.Proper ∧ text = l.source ++ ":" ++ l.engine ++ "/" ++ l.path ++ "#" ++ l.name) ∧
    (∀ l m : Locator, l.Proper → m.Proper → l.toString = m.toString → l = m) ∧
    (∀ l : Locator, l.Proper → parse? l.toString = some l) ∧
    ∀ (ns : String) (t : Project) (file : Path), ∀ e ∈ Extractor.standard ns, ∀ found,
      (e.extract t file).value = .ok found → ∀ i ∈ found,
        i.locator.toString = i.raw ∧ parse? i.raw = some i.locator :=
  ⟨fun _ _ => parse?_eq_some_iff, fun _ _ => toString_injective, fun _ => parse?_toString,
    fun _ _ _ _ he _ h _ hi => readsBack_of_standard he h hi⟩

def slashed : Locator := ⟨"a/b", "c", "//d/", "e:f/g"⟩

theorem locators_read_back_of_slashes :
    slashed.Proper ∧ parse? "a/b:c///d/#e:f/g" = some slashed ∧
      (∀ m : Locator, m.Proper → slashed.toString = m.toString → slashed = m) ∧
      ∃ i, (Manifest.extractFile Extraction.numberNamed ⟨.relative, ["sub", ".wukong.toml"]⟩).value = .ok [i] ∧
        i.locator.toString = i.raw ∧ parse? i.raw = some i.locator := by
  have hproper : slashed.Proper := by
    constructor <;> simp [Part, slashed]
  obtain ⟨-, hunique, hread, hsecrets⟩ := locators_read_back
  refine ⟨hproper, hread slashed hproper, fun m => hunique slashed m hproper, ?_⟩
  let i : SecretInfo := ⟨"k", ⟨"vault", "secret", "g", "k"⟩, "out", "vault:secret/g#k", "bunker", "generic",
    ⟨.relative, ["sub", ".wukong.toml"]⟩⟩
  have hfound : (Manifest.extractFile Extraction.numberNamed ⟨.relative, ["sub", ".wukong.toml"]⟩).value = .ok [i] := by
    decide +kernel
  exact ⟨i, hfound, hsecrets "n" _ _ ⟨Manifest.name, Manifest.handles, Manifest.extractFile⟩
    (by simp [Extractor.standard]) [i] hfound i (List.mem_singleton_self i)⟩

end Locator

end ConfigKeeper
