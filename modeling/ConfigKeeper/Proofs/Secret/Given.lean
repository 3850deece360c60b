import ConfigKeeper.Proofs.Association
import ConfigKeeper.Proofs.Secret.Entries
import ConfigKeeper.Proofs.Text.Split

namespace ConfigKeeper.Manifest

variable {file : Path} {text : String} {e : Entry} {es xs ys : List Entry} {s : Entry.Statement} {i j : SecretInfo}
  {is js : List SecretInfo} {items : List Toml}

namespace Entry

def givenName (e : Entry) : String :=
  match e.name with
  | some (.string name) => name
  | _ => ""

def HasTextName (e : Entry) : Prop := ∀ v, e.name = some v → ∃ name, v = .string name

/-- The secret of an entry of the format: four texts, for a provider, a kind and a place in a store that are
supported, with a destination below some directory. -/
structure Gives (e : Entry) (file : Path) (i : SecretInfo) : Prop where
  provider : e.field? "provider" = some "bunker" ∧ i.provider = "bunker"
  kind : e.field? "kind" = some "generic" ∧ i.kind = "generic"
  raw : e.field? "src" = some i.raw
  destination : e.field? "dst" = some i.destination
  locator : Locator.parse? i.raw = some i.locator
  source : i.locator.source = "vault"
  engine : i.locator.engine = "secret"
  relative : ¬ ['/'] <+: i.destination.toList ∧ ¬ ['~', '/'] <+: i.destination.toList
  key : i.key = if e.givenName = "" then i.name else e.givenName
  annotatedFile : i.annotatedFile = file

lemma isOutside_eq_false_iff (text : String) :
    isOutside text = false ↔ ¬ ['/'] <+: text.toList ∧ ¬ ['~', '/'] <+: text.toList := by
  rw [isOutside, Bool.or_eq_false_iff, and_comm]
  simp only [← Bool.not_eq_true, Text.startsWith_iff]

lemma key_of_textName (h : e.HasTextName) (l : Locator) :
    e.key l = .ok (if e.givenName = "" then l.name else e.givenName) := by
  rw [key, givenName]
  cases hname : e.name with
  | none => rfl
  | some v =>
    obtain ⟨name, rfl⟩ := h v hname
    by_cases hempty : name = ""
    · simp [hempty, Toml.isTruthy]
    · simp [hempty, Toml.isTruthy]

def secretOf (e : Entry) (file : Path) (s : Statement) : SecretInfo :=
  ⟨if e.givenName = "" then s.locator.name else e.givenName, s.locator, s.destination, s.raw, supportedProvider,
    supportedKind, file⟩

lemma gives_iff : e.Gives file i ↔ ∃ s, e.read = .ok s ∧ i = e.secretOf file s := by
  constructor
  · rintro ⟨hprovider, hkind, hraw, hdestination, hlocator, hsource, hengine, hrelative, hkey, hfile⟩
    refine ⟨⟨i.locator, i.raw, i.destination⟩, read_eq_ok_iff.2 ⟨⟨hprovider.1, hkind.1, hraw, hdestination, hlocator,
      hsource, hengine⟩, (isOutside_eq_false_iff _).2 hrelative⟩, ?_⟩
    cases i
    simp only at hprovider hkind hkey hfile
    rw [secretOf, hprovider.2, hkind.2, hkey, hfile]
    rfl
  · rintro ⟨s, hread, rfl⟩
    obtain ⟨hoffers, hin⟩ := read_eq_ok_iff.1 hread
    exact ⟨⟨hoffers.provider, rfl⟩, ⟨hoffers.kind, rfl⟩, hoffers.raw, hoffers.destination, hoffers.locator,
      hoffers.source, hoffers.engine, (isOutside_eq_false_iff _).1 hin, rfl, rfl⟩

lemma Gives.unique (hi : e.Gives file i) (hj : e.Gives file j) : i = j := by
  obtain ⟨s, hs, rfl⟩ := gives_iff.1 hi
  obtain ⟨s', hs', rfl⟩ := gives_iff.1 hj
  cases hs.symm.trans hs'
  rfl

lemma value_extract_of_textName (file : Path) (h : e.HasTextName) : (e.extract file).value =
    match e.read with
    | .ok s => .ok (some (e.secretOf file s))
    | .error _ => .ok none := by
  rw [value_extract_entry]
  cases e.read with
  | error o => rfl
  | ok s =>
    simp only [secret, key_of_textName h]
    rfl

end Entry

inductive Yields (file : Path) : List Entry → List SecretInfo → Prop
  | nil : Yields file [] []
  | gives {e : Entry} {i : SecretInfo} {es : List Entry} {is : List SecretInfo} (h : e.Gives file i)
      (hs : Yields file es is) : Yields file (e :: es) (i :: is)
  | skips {e : Entry} {es : List Entry} {is : List SecretInfo} (h : ∀ i, ¬ e.Gives file i)
      (hs : Yields file es is) : Yields file (e :: es) is

lemma Yields.append (h : Yields file xs is) (h' : Yields file ys js) : Yields file (xs ++ ys) (is ++ js) := by
  induction h with
  | nil => exact h'
  | gives he _ ih => exact .gives he ih
  | skips he _ ih => exact .skips he ih

lemma Yields.unique (h : Yields file xs is) (h' : Yields file xs js) : is = js := by
  induction h generalizing js with
  | nil =>
    cases h'
    rfl
  | gives he _ ih =>
    cases h' with
    | gives he' hs => rw [he.unique he', ih hs]
    | skips he' => exact absurd he (he' _)
  | skips he _ ih =>
    cases h' with
    | gives he' => exact absurd he' (he _)
    | skips _ hs => exact ih hs

lemma yields_of_textNames (file : Path) (h : ∀ e ∈ es, e.HasTextName) :
    ∃ is, (secretsOf file es).value = .ok is ∧ Yields file es is := by
  induction es with
  | nil => exact ⟨[], rfl, .nil⟩
  | cons e es ih =>
    rw [List.forall_mem_cons] at h
    obtain ⟨is, hvalue, hyields⟩ := ih h.2
    have hentry := Entry.value_extract_of_textName file h.1
    rw [secretsOf, Logged.value_bind, hentry]
    cases hread : e.read with
    | error o =>
      refine ⟨is, ?_, .skips ?_ hyields⟩
      · rw [Logged.value_bind, hvalue]
        rfl
      · rintro i hi
        obtain ⟨s, hs, -⟩ := Entry.gives_iff.1 hi
        cases hread.symm.trans hs
    | ok s =>
      refine ⟨e.secretOf file s :: is, ?_, .gives (Entry.gives_iff.2 ⟨s, hread, rfl⟩) hyields⟩
      rw [Logged.value_bind, hvalue]
      rfl

def IsInline (t : Toml.Entries) : Prop := ∃ f ∈ requiredFields, f ∈ t.map Prod.fst

/-- The entries that the format has in an element: the element itself, or else the tables in it. -/
inductive Candidate : Toml → Entry → Prop
  | inline {t : Toml.Entries} (h : IsInline t) : Candidate (.table t) ⟨t.lookup "name", t⟩
  | named {t fields : Toml.Entries} {name : String} (h : ¬ IsInline t) (hmem : (name, .table fields) ∈ t) :
    Candidate (.table t) ⟨some (.string name), fields⟩

def Entry.ofTable? (x : String × Toml) : Option Entry :=
  x.2.entries?.map fun fields => ⟨some (.string x.1), fields⟩

lemma isEntry_iff (t : Toml.Entries) : isEntry t = true ↔ IsInline t := by
  rw [isEntry, List.any_eq_true]
  simp only [Association.any_key_iff]
  rfl

lemma entriesOf_inline {t : Toml.Entries} (h : IsInline t) : entriesOf (.table t) = [⟨t.lookup "name", t⟩] :=
  if_pos ((isEntry_iff t).2 h)

lemma entriesOf_named {t : Toml.Entries} (h : ¬ IsInline t) : entriesOf (.table t) = t.filterMap Entry.ofTable? :=
  if_neg (mt (isEntry_iff t).1 h)

lemma ofTable?_eq_some_iff {x : String × Toml} :
    Entry.ofTable? x = some e ↔ ∃ fields, x.2 = .table fields ∧ e = ⟨some (.string x.1), fields⟩ := by
  rw [Entry.ofTable?]
  cases x.2 <;> simp [Toml.entries?, eq_comm]

lemma mem_entriesOf {x : Toml} : e ∈ entriesOf x ↔ Candidate x e := by
  constructor
  · intro h
    cases x with
    | table t =>
      by_cases ht : IsInline t
      · rw [entriesOf_inline ht, List.mem_singleton] at h
        exact h ▸ .inline ht
      · rw [entriesOf_named ht, List.mem_filterMap] at h
        obtain ⟨⟨name, v⟩, hmem, he⟩ := h
        obtain ⟨fields, rfl, rfl⟩ := ofTable?_eq_some_iff.1 he
        exact .named ht hmem
    | _ => cases h
  · rintro (h | ⟨h, hmem⟩)
    · rw [entriesOf_inline h]
      exact List.mem_singleton_self _
    · rw [entriesOf_named h, List.mem_filterMap]
      exact ⟨_, hmem, rfl⟩

def NamedByText (x : Toml) : Prop :=
  ∀ t v, x = .table t → IsInline t → t.lookup "name" = some v → ∃ name, v = .string name

lemma hasTextName_of_candidate {x : Toml} (h : NamedByText x) (he : Candidate x e) : e.HasTextName := by
  cases he with
  | inline ht => exact fun v => h _ v rfl ht
  | named _ _ =>
    rintro v hv
    exact ⟨_, (Option.some.inj hv).symm⟩

def givenBy (file : Path) (x : Toml) : List SecretInfo :=
  match (secretsOf file (entriesOf x)).value with
  | .ok found => found
  | .error _ => []

lemma yields_givenBy (file : Path) {x : Toml} (h : NamedByText x) : Yields file (entriesOf x) (givenBy file x) := by
  obtain ⟨is, hvalue, hyields⟩ := yields_of_textNames file
    fun e he => hasTextName_of_candidate h (mem_entriesOf.1 he)
  rwa [givenBy, hvalue]

lemma yields_flatMap (h : ∀ x ∈ items, NamedByText x) :
    Yields file (items.flatMap entriesOf) (items.flatMap (givenBy file)) := by
  induction items with
  | nil => exact .nil
  | cons x items ih =>
    rw [List.forall_mem_cons] at h
    exact (yields_givenBy file h.1).append (ih h.2)

lemma value_extract_of_items (hi : HasItems text items) (h : ∀ x ∈ items, NamedByText x) :
    (extract file text).value = .ok (items.flatMap (givenBy file)) := by
  have hnames : ∀ e ∈ items.flatMap entriesOf, e.HasTextName := by
    intro e he
    obtain ⟨x, hx, he⟩ := List.mem_flatMap.1 he
    exact hasTextName_of_candidate (h x hx) (mem_entriesOf.1 he)
  obtain ⟨is, hvalue, hyields⟩ := yields_of_textNames file hnames
  rw [extract_of_items hi, extractItems, Logged.value_bind, hvalue, hyields.unique (yields_flatMap h)]

/-- A manifest is read entry by entry. The candidates of an element are itself or the tables in it, each of them
once. The element gives the secrets of those that are complete and supported, in their order, and the manifest
gives what its elements give, one after the other. So what two lists of elements give together is what each
gives alone. -/
theorem extract_entrywise (t : Project) (file : Path) :
    (∀ x e, e ∈ entriesOf x ↔ Candidate x e) ∧
    (∀ es, IsInline es → entriesOf (.table es) = [⟨es.lookup "name", es⟩]) ∧
    (∀ es, ¬ IsInline es → entriesOf (.table es) = es.filterMap Entry.ofTable?) ∧
    (∀ x, NamedByText x → Yields file (entriesOf x) (givenBy file x)) ∧
    (∀ text items, (t.readSource file).value = .ok text → HasItems text items → (∀ x ∈ items, NamedByText x) →
      (extractFile t file).value = .ok (items.flatMap (givenBy file)) ∧
        Yields file (items.flatMap entriesOf) (items.flatMap (givenBy file))) ∧
    ∀ first second both xs ys, HasItems first xs → HasItems second ys → HasItems both (xs ++ ys) →
      (∀ x ∈ xs ++ ys, NamedByText x) → ∃ is js, (extract file first).value = .ok is ∧
        (extract file second).value = .ok js ∧ (extract file both).value = .ok (is ++ js) := by
  refine ⟨fun _ _ => mem_entriesOf, fun _ => entriesOf_inline, fun _ => entriesOf_named, fun _ => yields_givenBy file,
    ?_, ?_⟩
  · intro text items hread hi h
    rw [value_extractFile, hread]
    exact ⟨value_extract_of_items hi h, yields_flatMap h⟩
  · intro first second both xs ys hxs hys hboth h
    refine ⟨_, _, value_extract_of_items hxs fun x hx => h x (List.mem_append_left _ hx),
      value_extract_of_items hys fun x hx => h x (List.mem_append_right _ hx), ?_⟩
    rw [value_extract_of_items hboth h, List.flatMap_append]

example : ((extractItems ⟨.relative, [".wukong.toml"]⟩ [.table [("src", .int 5)], .table [("a", .table
    [("provider", .string "bunker"), ("kind", .string "generic"), ("src", .string "vault:secret/g#k"),
      ("dst", .string "f")])]]).value.map (List.map SecretInfo.key)) = .ok ["a"] := by
  decide +kernel

end ConfigKeeper.Manifest
