import ConfigKeeper.Proofs.Diff.Alignment

namespace ConfigKeeper.Diff

lemma lines_injective : Function.Injective Text.lines := fun s t h => by
  rw [← Text.lines_flatten s, h, Text.lines_flatten]

theorem hasDiff_iff (old new : List Char) : hasDiff old new = true ↔ old ≠ new := by
  rw [hasDiff, segmentsOf, align_any_isChanged_iff]
  exact not_congr lines_injective.eq_iff

section Numbering

def numbered (i : Nat) (items : List (List Char)) : List (Option Int × List Char) :=
  items.zipIdx.map fun (s, n) => (some ((i + n : Nat) : Int), s)

lemma numbered_append (i : Nat) (xs ys : List (List Char)) :
    numbered i (xs ++ ys) = numbered i xs ++ numbered (i + xs.length) ys := by
  rw [numbered, List.zipIdx_append, List.map_append, ← numbered, numbered, numbered,
    List.zipIdx_eq_map_add (i := 0 + xs.length), List.map_map]
  simp [Function.comp_def, Nat.add_assoc]

lemma numbered_fst (xs : List (List Char)) :
    (numbered 0 xs).map Prod.fst = (List.range xs.length).map fun n : Nat => some (n : Int) := by
  have h : xs.zipIdx.map Prod.snd = List.range xs.length := by
    rw [List.zipIdx_map_snd, List.range_eq_range']
  rw [← h, numbered, List.map_map, List.map_map]
  simp [Function.comp_def]

lemma numbered_snd (i : Nat) (xs : List (List Char)) : (numbered i xs).map Prod.snd = xs := by
  simp [numbered, Function.comp_def]

lemma mem_numbered {i : Nat} {xs : List (List Char)} {a : Int} {s : List Char}
    (h : (some a, s) ∈ numbered i xs) : ∃ n : Nat, a = (i + n : Nat) ∧ xs[n]? = some s := by
  obtain ⟨⟨s', n⟩, hm, he⟩ := List.mem_map.1 h
  rw [Prod.mk.injEq, Option.some.injEq] at he
  obtain ⟨rfl, rfl⟩ := he
  exact ⟨n, rfl, List.mk_mem_zipIdx_iff_getElem?.1 hm⟩

end Numbering

section Sides

variable {absent : Tag} {index : Line → Option Int} {i j : Nat}

def sideOf (absent : Tag) (index : Line → Option Int) (lines : List Line) : List (Option Int × List Char) :=
  (lines.filter fun l => l.tag != absent).map fun l => (index l, l.value)

structure Covers (absent : Tag) (index : Line → Option Int) (items : List (List Char))
    (lines : List Line) : Prop where
  indices : (lines.filter fun l => l.tag != absent).map index =
    (List.range items.length).map fun n : Nat => some (n : Int)
  none_iff : ∀ l ∈ lines, index l = none ↔ l.tag = absent
  value : ∀ l ∈ lines, ∀ a, index l = some a → ∃ n : Nat, a = n ∧ items[n]? = some l.value

lemma sideOf_append (xs ys : List Line) :
    sideOf absent index (xs ++ ys) = sideOf absent index xs ++ sideOf absent index ys := by
  simp [sideOf]

lemma sideOf_of_ne {lines : List Line} (h : ∀ l ∈ lines, l.tag ≠ absent) :
    sideOf absent index lines = lines.map fun l => (index l, l.value) := by
  rw [sideOf, List.filter_eq_self.2 fun l hl => by simpa using h l hl]

lemma sideOf_of_eq {lines : List Line} (h : ∀ l ∈ lines, l.tag = absent) : sideOf absent index lines = [] := by
  rw [sideOf, List.filter_eq_nil_iff.2 fun l hl => by simpa using h l hl, List.map_nil]

lemma flatten_sideOf (index : Line → Option Int) (lines : List Line) :
    ((sideOf absent index lines).map Prod.snd).flatten =
      (lines.filter fun l => l.tag != absent).flatMap Line.value := by
  rw [sideOf, List.map_map, List.flatMap_def]
  rfl

lemma covers_of_sideOf {items : List (List Char)} {lines : List Line}
    (h : sideOf absent index lines = numbered 0 items) (hn : ∀ l ∈ lines, index l = none ↔ l.tag = absent) :
    Covers absent index items lines := by
  refine ⟨?_, hn, ?_⟩
  · rw [← numbered_fst, ← h, sideOf, List.map_map]
    rfl
  · intro l hl a ha
    have htag : l.tag ≠ absent := by
      rw [ne_eq, ← hn l hl, ha]
      exact Option.some_ne_none a
    have hm : (some a, l.value) ∈ sideOf absent index lines := by
      rw [sideOf, List.mem_map]
      exact ⟨l, List.mem_filter.2 ⟨hl, by simpa using htag⟩, by rw [ha]⟩
    rw [h] at hm
    simpa using mem_numbered hm

lemma tag_of_mem_kept {items : List (List Char)} {l : Line} (h : l ∈ keptLines i j items) : l.tag = .equal := by
  obtain ⟨_, -, rfl⟩ := List.mem_map.1 h
  rfl

lemma tag_of_mem_deleted {items : List (List Char)} {emphasis : List (List Range)} {l : Line}
    (h : l ∈ deletedLines i items emphasis) : l.tag = .delete := by
  obtain ⟨_, -, rfl⟩ := List.mem_map.1 h
  rfl

lemma tag_of_mem_inserted {items : List (List Char)} {emphasis : List (List Range)} {l : Line}
    (h : l ∈ insertedLines j items emphasis) : l.tag = .insert := by
  obtain ⟨_, -, rfl⟩ := List.mem_map.1 h
  rfl

lemma sideOf_old_stretchOf (i j : Nat) (s : Segment (List Char)) :
    sideOf .insert Line.oldIndex (stretchOf i j s).lines = numbered i s.old := by
  cases s with
  | kept items =>
    rw [stretchOf, sideOf_of_ne fun l hl => by simp [tag_of_mem_kept hl], keptLines, List.map_map]
    rfl
  | changed old new =>
    rw [stretchOf, sideOf_append, sideOf_of_ne fun l hl => by simp [tag_of_mem_deleted hl],
      sideOf_of_eq fun l hl => tag_of_mem_inserted hl, List.append_nil, deletedLines, List.map_map]
    rfl

lemma sideOf_new_stretchOf (i j : Nat) (s : Segment (List Char)) :
    sideOf .delete Line.newIndex (stretchOf i j s).lines = numbered j s.new := by
  cases s with
  | kept items =>
    rw [stretchOf, sideOf_of_ne fun l hl => by simp [tag_of_mem_kept hl], keptLines, List.map_map]
    rfl
  | changed old new =>
    rw [stretchOf, sideOf_append, sideOf_of_eq fun l hl => tag_of_mem_deleted hl,
      sideOf_of_ne fun l hl => by simp [tag_of_mem_inserted hl], List.nil_append, insertedLines, List.map_map]
    rfl

lemma sideOf_old_stretchesFrom (i j : Nat) (segments : List (Segment (List Char))) :
    sideOf .insert Line.oldIndex ((stretchesFrom i j segments).flatMap Stretch.lines) =
      numbered i (oldOf segments) := by
  induction segments generalizing i j with
  | nil => rfl
  | cons s rest ih =>
    rw [stretchesFrom, List.flatMap_cons, sideOf_append, sideOf_old_stretchOf, ih, oldOf_cons, numbered_append]

lemma sideOf_new_stretchesFrom (i j : Nat) (segments : List (Segment (List Char))) :
    sideOf .delete Line.newIndex ((stretchesFrom i j segments).flatMap Stretch.lines) =
      numbered j (newOf segments) := by
  induction segments generalizing i j with
  | nil => rfl
  | cons s rest ih =>
    rw [stretchesFrom, List.flatMap_cons, sideOf_append, sideOf_new_stretchOf, ih, newOf_cons, numbered_append]

lemma index_stretchOf {s : Segment (List Char)} {l : Line} (h : l ∈ (stretchOf i j s).lines) :
    (l.oldIndex = none ↔ l.tag = .insert) ∧ (l.newIndex = none ↔ l.tag = .delete) := by
  cases s with
  | kept items =>
    obtain ⟨_, -, rfl⟩ := List.mem_map.1 h
    simp
  | changed old new =>
    rcases List.mem_append.1 h with h | h <;> obtain ⟨_, -, rfl⟩ := List.mem_map.1 h <;> simp

lemma mem_stretchesFrom {segments : List (Segment (List Char))} {st : Stretch}
    (h : st ∈ stretchesFrom i j segments) : ∃ s ∈ segments, ∃ i' j', st = stretchOf i' j' s := by
  induction segments generalizing i j with
  | nil => cases h
  | cons s rest ih =>
    rcases List.mem_cons.1 h with rfl | h
    · exact ⟨s, List.mem_cons_self, i, j, rfl⟩
    · obtain ⟨s', hs, hst⟩ := ih h
      exact ⟨s', List.mem_cons_of_mem s hs, hst⟩

end Sides

lemma sideOf_old_script (old new : List Char) :
    sideOf .insert Line.oldIndex (script old new) = numbered 0 (Text.lines old) := by
  rw [script, stretches, sideOf_old_stretchesFrom, segmentsOf, oldOf_align]

lemma sideOf_new_script (old new : List Char) :
    sideOf .delete Line.newIndex (script old new) = numbered 0 (Text.lines new) := by
  rw [script, stretches, sideOf_new_stretchesFrom, segmentsOf, newOf_align]

lemma index_script {old new : List Char} {l : Line} (h : l ∈ script old new) :
    (l.oldIndex = none ↔ l.tag = .insert) ∧ (l.newIndex = none ↔ l.tag = .delete) := by
  obtain ⟨st, hst, hl⟩ := List.mem_flatMap.1 h
  obtain ⟨s, -, i, j, rfl⟩ := mem_stretchesFrom hst
  exact index_stretchOf hl

lemma oldText_script (old new : List Char) : oldText (script old new) = old := by
  rw [oldText, ← flatten_sideOf Line.oldIndex, sideOf_old_script, numbered_snd, Text.lines_flatten]

lemma newText_script (old new : List Char) : newText (script old new) = new := by
  rw [newText, ← flatten_sideOf Line.newIndex, sideOf_new_script, numbered_snd, Text.lines_flatten]

/-- The script of two texts leads from one to the other. Its lines that are not inserted are the old
lines in order, those that are not removed are the new ones, and an index stands exactly on the
sides where the line is. -/
theorem script_edits (old new : List Char) :
    oldText (script old new) = old ∧ newText (script old new) = new ∧
      Covers .insert Line.oldIndex (Text.lines old) (script old new) ∧
      Covers .delete Line.newIndex (Text.lines new) (script old new) :=
  ⟨oldText_script old new, newText_script old new,
    covers_of_sideOf (sideOf_old_script old new) fun _ h => (index_script h).1,
    covers_of_sideOf (sideOf_new_script old new) fun _ h => (index_script h).2⟩

end ConfigKeeper.Diff
