import ConfigKeeper.Proofs.Secret.Given

/-!
Other names for the tables of an element. While none of them is the name of a field, each table is an entry of
its own, and its name only shows in the key of its secret. A table with the name of a field makes the element
one entry, which has no texts in its fields, and then all its tables are lost.
-/

namespace ConfigKeeper.Manifest

variable {file : Path} {text text' : String} {e : Entry} {i : SecretInfo} {is is' : List SecretInfo}
  {es es' fields : Toml.Entries} {name name' : Option Toml}

def withoutKey (i : SecretInfo) : SecretInfo := { i with key := "" }

def SameButKeys (file : Path) (text text' : String) : Prop :=
  (extract file text').value.map (List.map withoutKey) = (extract file text).value.map (List.map withoutKey)

def GivesNothing (file : Path) (es : Toml.Entries) : Prop :=
  ∀ fields, .table fields ∈ es.map Prod.snd → ∀ name i, ¬ (⟨name, fields⟩ : Entry).Gives file i

lemma Entry.Gives.renamed (h : (⟨name, fields⟩ : Entry).Gives file i) (name' : Option Toml) :
    ∃ j, (⟨name', fields⟩ : Entry).Gives file j ∧ withoutKey j = withoutKey i := by
  obtain ⟨s, hs, rfl⟩ := gives_iff.1 h
  exact ⟨Entry.secretOf ⟨name', fields⟩ file s, gives_iff.2 ⟨s, hs, rfl⟩, rfl⟩

lemma ofTable?_table (name : String) (fields : Toml.Entries) :
    Entry.ofTable? (name, .table fields) = some ⟨some (.string name), fields⟩ := rfl

lemma Yields.renamed (htables : ∀ v ∈ es.map Prod.snd, ∃ fields, v = .table fields)
    (hrenamed : es'.map Prod.snd = es.map Prod.snd) (h : Yields file (es.filterMap Entry.ofTable?) is)
    (h' : Yields file (es'.filterMap Entry.ofTable?) is') : is'.map withoutKey = is.map withoutKey := by
  -- both lists are walked in step: a table gives a secret under one name just if it does under the other
  induction es generalizing es' is is' with
  | nil =>
    obtain rfl : es' = [] := List.map_eq_nil_iff.1 hrenamed
    cases h
    cases h'
    rfl
  | cons x es ih =>
    obtain ⟨name, v⟩ := x
    rw [List.map_cons, List.forall_mem_cons] at htables
    obtain ⟨⟨fields, rfl⟩, htables⟩ := htables
    obtain ⟨⟨name', v'⟩, es', rfl, hv, hrest⟩ := List.map_eq_cons_iff.1 hrenamed
    obtain rfl : v' = .table fields := hv
    rw [List.filterMap_cons_some (ofTable?_table _ _)] at h h'
    cases h with
    | gives hi hs =>
      cases h' with
      | gives hj hs' =>
        obtain ⟨k, hk, hkey⟩ := hi.renamed (some (.string name'))
        rw [List.map_cons, List.map_cons, ih htables hrest hs hs', ← hkey, hj.unique hk]
      | skips hj =>
        obtain ⟨k, hk, -⟩ := hi.renamed (some (.string name'))
        exact absurd hk (hj k)
    | skips hi hs =>
      cases h' with
      | gives hj =>
        obtain ⟨k, hk, -⟩ := hj.renamed (some (.string name))
        exact absurd hk (hi k)
      | skips _ hs' => exact ih htables hrest hs hs'

lemma Yields.eq_nil_iff {xs : List Entry} (h : Yields file xs is) : is = [] ↔ ∀ e ∈ xs, ∀ i, ¬ e.Gives file i := by
  induction h with
  | nil => simp
  | gives he _ _ =>
    refine iff_of_false (List.cons_ne_nil _ _) fun h => ?_
    exact h _ List.mem_cons_self _ he
  | skips he _ ih => rw [ih, List.forall_mem_cons, and_iff_right he]

lemma eq_nil_iff_givesNothing (h : Yields file (es.filterMap Entry.ofTable?) is) :
    is = [] ↔ GivesNothing file es := by
  rw [h.eq_nil_iff]
  constructor
  · intro hnone fields hmem name i hi
    obtain ⟨⟨own, v⟩, hx, hv⟩ := List.mem_map.1 hmem
    obtain rfl : v = .table fields := hv
    obtain ⟨j, hj, -⟩ := hi.renamed (some (.string own))
    exact hnone _ (List.mem_filterMap.2 ⟨_, hx, ofTable?_table own fields⟩) j hj
  · intro hnone e he i
    obtain ⟨x, hx, he⟩ := List.mem_filterMap.1 he
    obtain ⟨fields, hv, rfl⟩ := ofTable?_eq_some_iff.1 he
    exact hnone fields (hv ▸ List.mem_map_of_mem hx) _ i

lemma extract_of_inline (htables : ∀ v ∈ es.map Prod.snd, ∃ fields, v = .table fields) (name : Option Toml) :
    (⟨name, es⟩ : Entry).extract file =
      ⟨.ok none, [(Entry.Obstacle.missing requiredFields).remark file (Entry.label ⟨name, es⟩)]⟩ := by
  have hfields : ∀ f, (⟨name, es⟩ : Entry).field? f = none := by
    intro f
    rw [Entry.field?]
    cases hv : es.lookup f with
    | none => rfl
    | some v =>
      obtain ⟨fields, rfl⟩ := htables v (List.mem_map_of_mem (Association.mem_of_lookup hv))
      rfl
  have hread : (⟨name, es⟩ : Entry).read = .error (.missing requiredFields) := by
    rw [Entry.read, hfields "provider"]
    simp [Entry.missing, hfields]
  rw [Entry.extract, hread]

lemma value_secretsOf_append (file : Path) (xs ys : List Entry) : (secretsOf file (xs ++ ys)).value = (do
    let is ← (secretsOf file xs).value
    let js ← (secretsOf file ys).value
    pure (is ++ js)) := by
  induction xs with
  | nil =>
    change (secretsOf file ys).value = (secretsOf file ys).value >>= fun js => pure ([] ++ js)
    cases (secretsOf file ys).value <;> rfl
  | cons e xs ih =>
    rw [List.cons_append, secretsOf, secretsOf, Logged.value_bind, Logged.value_bind]
    cases (e.extract file).value with
    | error f => rfl
    | ok found =>
      simp only [Logged.value_bind, ih]
      cases (secretsOf file xs).value with
      | error f => rfl
      | ok is =>
        cases (secretsOf file ys).value with
        | error f => rfl
        | ok js => exact congrArg Except.ok (List.append_assoc _ _ _).symm

lemma secretsOf_inline (htables : ∀ v ∈ es.map Prod.snd, ∃ fields, v = .table fields) (h : IsInline es) :
    secretsOf file (entriesOf (.table es)) = ⟨.ok [], [(Entry.Obstacle.missing requiredFields).remark file
      (Entry.label ⟨es.lookup "name", es⟩)]⟩ := by
  rw [entriesOf_inline h, secretsOf, extract_of_inline htables]
  rfl

lemma secretsOf_named (h : ¬ IsInline es) :
    (secretsOf file (entriesOf (.table es))).value = .ok (givenBy file (.table es)) ∧
      Yields file (es.filterMap Entry.ofTable?) (givenBy file (.table es)) := by
  have hnames : NamedByText (.table es) := by
    rintro t v ⟨⟩ ht
    exact absurd ht h
  have hyields := yields_givenBy file hnames
  obtain ⟨is, hvalue, hown⟩ := yields_of_textNames file fun e (he : e ∈ entriesOf (.table es)) =>
    hasTextName_of_candidate hnames (mem_entriesOf.1 he)
  rw [hvalue, hown.unique hyields]
  rw [entriesOf_named h] at hyields
  exact ⟨rfl, hyields⟩

lemma value_of_tables (htables : ∀ v ∈ es.map Prod.snd, ∃ fields, v = .table fields) :
    (secretsOf file (entriesOf (.table es))).value = .ok (givenBy file (.table es)) := by
  by_cases h : IsInline es
  · rw [givenBy, secretsOf_inline htables h]
  · exact (secretsOf_named h).1

lemma givenBy_inline (htables : ∀ v ∈ es.map Prod.snd, ∃ fields, v = .table fields) (h : IsInline es) :
    givenBy file (.table es) = [] := by
  rw [givenBy, secretsOf_inline htables h]

lemma givenBy_renamed_iff (htables : ∀ v ∈ es.map Prod.snd, ∃ fields, v = .table fields)
    (hrenamed : es'.map Prod.snd = es.map Prod.snd) :
    (givenBy file (.table es')).map withoutKey = (givenBy file (.table es)).map withoutKey ↔
      (IsInline es ↔ IsInline es') ∨ GivesNothing file es := by
  have htables' := hrenamed ▸ htables
  have hnothing : GivesNothing file es' ↔ GivesNothing file es := by rw [GivesNothing, GivesNothing, hrenamed]
  by_cases h : IsInline es <;> by_cases h' : IsInline es'
  · rw [givenBy_inline htables h, givenBy_inline htables' h']
    exact iff_of_true rfl (.inl (iff_of_true h h'))
  · rw [givenBy_inline htables h, List.map_nil, List.map_eq_nil_iff,
      eq_nil_iff_givesNothing (secretsOf_named h').2, hnothing]
    simp [h, h']
  · rw [givenBy_inline htables' h', List.map_nil, eq_comm, List.map_eq_nil_iff,
      eq_nil_iff_givesNothing (secretsOf_named h).2]
    simp [h, h']
  · exact iff_of_true ((secretsOf_named h).2.renamed htables hrenamed (secretsOf_named h').2)
      (.inl (iff_of_false h h'))

lemma value_extract_around (file : Path) {pre post : List Toml} (hi : HasItems text (pre ++ .table es :: post))
    (htables : ∀ v ∈ es.map Prod.snd, ∃ fields, v = .table fields) : (extract file text).value = (do
      let front ← (secretsOf file (pre.flatMap entriesOf)).value
      let back ← (secretsOf file (post.flatMap entriesOf)).value
      pure (front ++ (givenBy file (.table es) ++ back))) := by
  rw [extract_of_items hi, extractItems, Logged.value_bind, List.flatMap_append, List.flatMap_cons,
    value_secretsOf_append, value_secretsOf_append, value_of_tables htables]
  cases (secretsOf file (pre.flatMap entriesOf)).value with
  | error f => rfl
  | ok front => cases (secretsOf file (post.flatMap entriesOf)).value <;> rfl

lemma map_withoutKey_around (front back : List SecretInfo) :
    (front ++ (is' ++ back)).map withoutKey = (front ++ (is ++ back)).map withoutKey ↔
      is'.map withoutKey = is.map withoutKey := by
  simp only [List.map_append, List.append_cancel_left_eq, List.append_cancel_right_eq]

/-- The tables of an element are entries under their names just if none of the names is the name of a field;
otherwise the element gives nothing but a warning. So other names leave the secrets of a manifest as they
are, up to the keys, exactly if both or neither of the two sets of names have the name of a field among them,
unless there is nothing to lose: no table of the element gives a secret, or the manifest cannot be read. -/
theorem renamed_alike_iff (file : Path) {text text' : String} {pre post : List Toml} {es es' : Toml.Entries}
    (h : HasItems text (pre ++ .table es :: post)) (h' : HasItems text' (pre ++ .table es' :: post))
    (htables : ∀ v ∈ es.map Prod.snd, ∃ fields, v = .table fields) (hrenamed : es'.map Prod.snd = es.map Prod.snd) :
    (¬ IsInline es → Yields file (es.filterMap Entry.ofTable?) (givenBy file (.table es))) ∧
    (IsInline es → secretsOf file (entriesOf (.table es)) =
      ⟨.ok [], [(Entry.Obstacle.missing requiredFields).remark file (Entry.label ⟨es.lookup "name", es⟩)]⟩) ∧
    (SameButKeys file text text' ↔
      (IsInline es ↔ IsInline es') ∨ GivesNothing file es ∨ ∃ f, (extract file text).value = .error f) := by
  refine ⟨fun hno => (secretsOf_named hno).2, secretsOf_inline htables, ?_⟩
  -- the element in the middle is the only one in which the two manifests differ
  have hvalue := value_extract_around file h htables
  have hvalue' := value_extract_around file h' (hrenamed ▸ htables)
  rw [SameButKeys, hvalue, hvalue', ← or_assoc, ← givenBy_renamed_iff htables hrenamed]
  cases (secretsOf file (pre.flatMap entriesOf)).value with
  | error f => exact iff_of_true rfl (.inr ⟨f, rfl⟩)
  | ok front =>
    cases (secretsOf file (post.flatMap entriesOf)).value with
    | error f => exact iff_of_true rfl (.inr ⟨f, rfl⟩)
    | ok back =>
      change Except.ok (List.map withoutKey (front ++ (givenBy file (.table es') ++ back))) =
        Except.ok (List.map withoutKey (front ++ (givenBy file (.table es) ++ back))) ↔
          _ ∨ ∃ f, Except.ok (front ++ (givenBy file (.table es) ++ back)) = .error f
      rw [Except.ok.injEq, map_withoutKey_around, or_iff_left]
      rintro ⟨f, ⟨⟩⟩

def fieldsOfOne : Toml.Entries :=
  [("provider", .string "bunker"), ("kind", .string "generic"), ("src", .string "vault:secret/g#k"),
    ("dst", .string "f")]

def elementOf (name : String) : Toml := .table [(name, .table fieldsOfOne)]

def ofName (name : String) : String :=
  "[[secrets]]\n\n[secrets." ++ name ++ "]\nprovider = \"bunker\"\nkind = \"generic\"\n" ++
    "src = \"vault:secret/g#k\"\ndst = \"f\"\n"

def ofNamePath : Path := ⟨.relative, [".wukong.toml"]⟩

theorem renamed_alike_iff_of_names :
    HasItems (ofName "a") ([] ++ elementOf "a" :: []) ∧ HasItems (ofName "b") ([] ++ elementOf "b" :: []) ∧
      SameButKeys ofNamePath (ofName "a") (ofName "b") := by
  have h : HasItems (ofName "a") ([] ++ elementOf "a" :: []) :=
    ⟨[("secrets", .array [elementOf "a"])], by decide +kernel, rfl⟩
  have h' : HasItems (ofName "b") ([] ++ elementOf "b" :: []) :=
    ⟨[("secrets", .array [elementOf "b"])], by decide +kernel, rfl⟩
  have hboth := (renamed_alike_iff ofNamePath h h' (by simp) rfl).2.2
  refine ⟨h, h', hboth.2 (.inl (iff_of_false ?_ ?_))⟩ <;> simp [IsInline, requiredFields]

theorem lost_under_field_name :
    HasItems (ofName "source") [elementOf "source"] ∧ HasItems (ofName "src") [elementOf "src"] ∧
      (extract ofNamePath (ofName "source")).value = .ok [⟨"source", ⟨"vault", "secret", "g", "k"⟩, "f",
        "vault:secret/g#k", "bunker", "generic", ofNamePath⟩] ∧
      (extract ofNamePath (ofName "src")).value = .ok [] ∧
      ¬ SameButKeys ofNamePath (ofName "source") (ofName "src") := by
  have hsource : HasItems (ofName "source") [elementOf "source"] :=
    ⟨[("secrets", .array [elementOf "source"])], by decide +kernel, rfl⟩
  have hsrc : HasItems (ofName "src") [elementOf "src"] :=
    ⟨[("secrets", .array [elementOf "src"])], by decide +kernel, rfl⟩
  rw [SameButKeys, extract_of_items hsource, extract_of_items hsrc]
  exact ⟨hsource, hsrc, by decide +kernel⟩

end ConfigKeeper.Manifest
