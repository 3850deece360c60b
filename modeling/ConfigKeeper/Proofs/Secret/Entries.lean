import ConfigKeeper.Proofs.Secret.Reading

namespace ConfigKeeper.Manifest

variable {file : Path} {text : String} {e : Entry} {es : List Entry} {s : Entry.Statement} {i : SecretInfo}
  {found : List SecretInfo}

namespace Entry

structure Offers (e : Entry) (s : Statement) : Prop where
  provider : e.field? "provider" = some supportedProvider
  kind : e.field? "kind" = some supportedKind
  raw : e.field? "src" = some s.raw
  destination : e.field? "dst" = some s.destination
  locator : Locator.parse? s.raw = some s.locator
  source : s.locator.source = supportedSource
  engine : s.locator.engine = supportedEngine

lemma read_of_offers (h : e.Offers s) : e.read =
    if isOutside s.destination then .error (.outside s.destination) else .ok s := by
  rw [read, h.provider, h.kind, h.raw, h.destination]
  simp [h.locator, h.source, h.engine]

lemma offers_of_read (h : e.read = .ok s) : e.Offers s ∧ isOutside s.destination = false := by
  rw [read] at h
  split at h
  · next provider kind src dst hprovider hkind hsrc hdst =>
    split at h
    · cases h
    · next hsupported =>
      split at h
      · cases h
      · next l hl =>
        split at h
        · cases h
        · next hplace =>
          split at h
          · cases h
          · next hin =>
            cases h
            simp only [Bool.or_eq_true, bne_iff_ne, not_or, not_not] at hsupported hplace
            rw [hsupported.1] at hprovider
            rw [hsupported.2] at hkind
            exact ⟨⟨hprovider, hkind, hsrc, hdst, hl, hplace.1, hplace.2⟩, by simpa using hin⟩
  · cases h

lemma read_eq_ok_iff : e.read = .ok s ↔ e.Offers s ∧ isOutside s.destination = false := by
  refine ⟨offers_of_read, ?_⟩
  rintro ⟨hs, hin⟩
  rw [read_of_offers hs, hin]
  rfl

lemma value_extract_entry (file : Path) (e : Entry) : (e.extract file).value =
    match e.read with
    | .ok s => (e.secret file s).map some
    | .error _ => .ok none := by
  rw [Entry.extract]
  cases e.read <;> rfl

lemma extract_entry_some_iff :
    (e.extract file).value = .ok (some i) ↔ ∃ s, e.read = .ok s ∧ e.secret file s = .ok i := by
  rw [value_extract_entry]
  cases e.read with
  | error o => simp
  | ok s => cases hi : e.secret file s <;> simp [Except.map, hi]

lemma remark_of_outside (h : e.Offers s) (ho : isOutside s.destination = true) :
    e.extract file = ⟨.ok none, [(Obstacle.outside s.destination).remark file e.label]⟩ := by
  rw [Entry.extract, read_of_offers h, if_pos ho]

lemma secret_repeats (h : e.secret file s = .ok i) :
    i.locator = s.locator ∧ i.destination = s.destination ∧ i.raw = s.raw ∧ i.annotatedFile = file := by
  rw [secret] at h
  split at h
  · cases h
    exact ⟨rfl, rfl, rfl, rfl⟩
  · cases h

end Entry

lemma secretsOf_reads (h : (secretsOf file es).value = .ok found) :
    ∃ xs, List.Forall₂ (fun e x => (e.extract file).value = .ok x) es xs ∧
      found = xs.flatMap Option.toList ∧
      (secretsOf file es).records = es.flatMap fun e => (e.extract file).records := by
  induction es generalizing found with
  | nil =>
    cases h
    exact ⟨[], .nil, rfl, rfl⟩
  | cons e es ih =>
    rw [secretsOf, Logged.value_bind] at h
    rw [secretsOf, Logged.records_bind]
    cases hx : (e.extract file).value with
    | error f =>
      rw [hx] at h
      cases h
    | ok x =>
      rw [hx] at h
      simp only [Logged.value_bind, Logged.value_pure] at h
      cases hrest : (secretsOf file es).value with
      | error f =>
        rw [hrest] at h
        cases h
      | ok rest =>
        rw [hrest] at h
        obtain ⟨xs, hxs, rfl, hrecords⟩ := ih hrest
        refine ⟨x :: xs, .cons hx hxs, (Except.ok.inj h).symm, ?_⟩
        simp only [Logged.records_bind, hrecords, List.flatMap_cons]
        rw [show (pure _ : Logged _).records = [] from rfl, List.append_nil]

lemma mem_secretsOf (h : (secretsOf file es).value = .ok found) :
    i ∈ found ↔ ∃ e ∈ es, (e.extract file).value = .ok (some i) := by
  obtain ⟨xs, hxs, rfl, -⟩ := secretsOf_reads h
  clear h
  induction hxs with
  | nil => simp
  | @cons e x es xs hx _ ih =>
    rw [List.flatMap_cons, List.mem_append, ih, List.exists_mem_cons_iff, hx, Option.mem_toList,
      Except.ok.injEq]

lemma exists_secret (h : (secretsOf file es).value = .ok found) (he : e ∈ es) (hr : e.read = .ok s) :
    ∃ i, i ∈ found ∧ e.secret file s = .ok i := by
  obtain ⟨xs, hxs, -, -⟩ := secretsOf_reads h
  have hread : ∃ x, (e.extract file).value = .ok x := by
    clear h
    induction hxs with
    | nil => cases he
    | cons hx _ ih =>
      rcases List.mem_cons.1 he with rfl | he
      · exact ⟨_, hx⟩
      · exact ih he
  obtain ⟨x, hx⟩ := hread
  rw [Entry.value_extract_entry, hr] at hx
  cases hi : e.secret file s with
  | error f =>
    simp only [hi] at hx
    cases hx
  | ok i => exact ⟨i, (mem_secretsOf h).2 ⟨e, he, Entry.extract_entry_some_iff.2 ⟨s, hr, hi⟩⟩, rfl⟩

def HasItems (text : String) (items : List Toml) : Prop :=
  ∃ entries, Toml.parse text.toList = .ok entries ∧ entries.lookup "secrets" = some (.array items)

lemma extract_of_items {items : List Toml} (h : HasItems text items) :
    extract file text = extractItems file items := by
  obtain ⟨entries, hp, hs⟩ := h
  rw [extract, hp]
  simp only [hs]

lemma items_of_extract (h : (extract file text).value = .ok found) :
    ∃ items, HasItems text items ∧ (secretsOf file (items.flatMap entriesOf)).value = .ok found := by
  rw [value_extract] at h
  split at h
  · cases h
  · next entries hp =>
    split at h
    · next items hs => exact ⟨items, ⟨entries, hp, hs⟩, h⟩
    · cases h

lemma mem_records_of_entry {items : List Toml} (hi : HasItems text items)
    (h : (extract file text).value = .ok found) {x : Log.Record} (he : e ∈ items.flatMap entriesOf)
    (hx : x ∈ (e.extract file).records) : x ∈ (extract file text).records := by
  rw [extract_of_items hi] at h ⊢
  obtain ⟨xs, -, -, hrecords⟩ := secretsOf_reads h
  rw [extractItems, Logged.records_bind, hrecords]
  exact List.mem_append_right _ (List.mem_flatMap.2 ⟨e, he, hx⟩)

end ConfigKeeper.Manifest
