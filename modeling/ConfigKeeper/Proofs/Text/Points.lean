import ConfigKeeper.Proofs.Lint.Marking
import Mathlib.Data.Prod.Lex

/-!
Byte offsets and points lead back to each other. The point of an offset is looked up among the row starts; it
is the one that is counted while the bytes before the offset are read, so its laws are those of the count.
-/

namespace ConfigKeeper.Text

variable {front back bytes : List UInt8} {p : Point} {base offset k : ℕ}

section Count

def Point.key (p : Point) : ℕ ×ₗ ℕ := toLex (p.row, p.column)

lemma key_lt_next (p : Point) (b : UInt8) : p.key < (p.next b).key := by
  rw [Point.key, Point.key, Prod.Lex.toLex_lt_toLex, Point.next]
  split
  · exact .inl (Nat.lt_succ_self _)
  · exact .inr ⟨rfl, Nat.lt_succ_self _⟩

lemma key_pointAfter_lt (front : List UInt8) {more : List UInt8} (h : more ≠ []) :
    (pointAfter front).key < (pointAfter (front ++ more)).key := by
  induction more using List.reverseRecOn with
  | nil => exact absurd rfl h
  | append_singleton more b ih =>
    have hlast := key_lt_next (pointAfter (front ++ more)) b
    rw [← List.append_assoc, pointAfter_concat]
    rcases eq_or_ne more [] with rfl | hmore
    · rwa [List.append_nil] at hlast ⊢
    · exact (ih hmore).trans hlast

lemma row_pointAfter (bytes : List UInt8) : (pointAfter bytes).row = bytes.count 10 := by
  induction bytes using List.reverseRecOn with
  | nil => rfl
  | append_singleton bytes b ih =>
    rw [pointAfter_concat, Point.next, List.count_append, ← ih]
    by_cases hb : b = 10
    · rw [if_pos hb, hb]
      rfl
    · rw [if_neg hb, List.count_singleton, if_neg (by simpa using hb)]
      rfl

end Count

section Rows

lemma length_splitOn (bytes : List UInt8) : (bytes.splitOn 10).length = bytes.count 10 + 1 := by
  induction bytes with
  | nil => rfl
  | cons b bytes ih =>
    rw [List.splitOn_cons_eq_if_modifyHead, List.count_cons]
    split
    · rw [List.length_cons, ih]
    · rw [List.length_modifyHead, ih, Nat.add_zero]

lemma first_splitOn (bytes : List UInt8) : (bytes.splitOn 10)[0]? = some (bytes.takeWhile (· != 10)) := by
  induction bytes with
  | nil => rfl
  | cons b bytes ih =>
    rw [List.splitOn_cons_eq_if_modifyHead, List.takeWhile_cons, bne]
    cases b == 10 with
    | true => rfl
    | false =>
      rw [if_neg Bool.false_ne_true, List.getElem?_modifyHead, ih]
      rfl

lemma row_around_cut (front : List UInt8) : ∃ last, last.length = (pointAfter front).column ∧
    ∀ back, ((front ++ back).splitOn 10)[(pointAfter front).row]? = some (last ++ back.takeWhile (· != 10)) := by
  induction front using List.reverseRecOn with
  | nil => exact ⟨[], rfl, first_splitOn⟩
  | append_singleton front b ih =>
    obtain ⟨last, hlength, hrow⟩ := ih
    rw [pointAfter_concat, Point.next]
    by_cases hb : b = 10
    · rw [if_pos hb]
      refine ⟨[], rfl, fun back => ?_⟩
      have hnext : (pointAfter front).row + 1 = (front.splitOn 10).length := by
        rw [length_splitOn, row_pointAfter]
      rw [List.append_assoc, hb, List.singleton_append, List.splitOn_append_cons_self, hnext,
        List.getElem?_append_right le_rfl, Nat.sub_self, first_splitOn, List.nil_append]
    · rw [if_neg hb]
      refine ⟨last ++ [b], by rw [List.length_append, hlength]; rfl, fun back => ?_⟩
      rw [List.append_assoc, List.singleton_append, hrow, List.takeWhile_cons_of_pos (by simpa using hb),
        List.append_assoc, List.singleton_append]

end Rows

section Starts

lemma bounds_of_mem_rowStartsFrom (h : k ∈ rowStartsFrom base bytes) : base < k ∧ k ≤ base + bytes.length := by
  induction bytes generalizing base with
  | nil => cases h
  | cons b bytes ih =>
    have hmem : k = base + 1 ∨ k ∈ rowStartsFrom (base + 1) bytes := by
      rw [rowStartsFrom] at h
      split at h
      · exact List.mem_cons.1 h
      · exact .inr h
    rw [List.length_cons]
    rcases hmem with rfl | hmem
    · omega
    · have := ih hmem
      omega

lemma le_of_mem_rowStarts (h : k ∈ rowStarts bytes) : k ≤ bytes.length := by
  rcases List.mem_cons.1 h with rfl | h
  · exact Nat.zero_le _
  · simpa using (bounds_of_mem_rowStartsFrom h).2

lemma takeWhile_rowStarts (front back : List UInt8) :
    (rowStarts (front ++ back)).takeWhile (· ≤ front.length) = rowStarts front := by
  have hbehind : (rowStartsFrom front.length back).takeWhile (· ≤ front.length) = [] := by
    cases h : rowStartsFrom front.length back with
    | nil => rfl
    | cons k ks =>
      have hk : front.length < k := (bounds_of_mem_rowStartsFrom (h ▸ List.mem_cons_self)).1
      exact List.takeWhile_cons_of_neg (by simpa using hk)
  rw [rowStarts_append, List.takeWhile_append_of_pos fun k hk => by simpa using le_of_mem_rowStarts hk, hbehind,
    List.append_nil]

lemma pointOfOffset_cut (front back : List UInt8) :
    pointOfOffset (front ++ back) front.length = pointAfter front := by
  obtain ⟨hrow, start, hstart, hcolumn⟩ := counts_pointAfter front
  have hlast : (rowStarts front).getLastD 0 = start := by
    rw [List.getLastD_eq_getLast?, List.getLast?_eq_getElem?, hrow, Nat.add_sub_cancel, hstart]
    rfl
  have hpoint : pointOfOffset (front ++ back) front.length =
      ⟨(rowStarts front).length - 1, front.length - (rowStarts front).getLastD 0⟩ := by
    rw [pointOfOffset, takeWhile_rowStarts]
  rw [hpoint, hrow, hlast, ← hcolumn, Nat.add_sub_cancel, Nat.add_sub_cancel_left]

lemma pointOfOffset_eq (h : offset ≤ bytes.length) : pointOfOffset bytes offset = pointAfter (bytes.take offset) := by
  have hcut := pointOfOffset_cut (bytes.take offset) (bytes.drop offset)
  rwa [List.take_append_drop, List.length_take_of_le h] at hcut

end Starts

/-- A point stands for an offset: its row is the last one that starts no later, its column lies in that row's
bytes or at their end, the point leads back to the offset, and a row was entered at each line feed before it. -/
structure Locates (bytes : List UInt8) (p : Point) (offset : ℕ) : Prop where
  row : p.row < (rowStarts bytes).length
  last : ∀ i start, (rowStarts bytes)[i]? = some start → (start ≤ offset ↔ i ≤ p.row)
  column : ∃ row, (bytes.splitOn 10)[p.row]? = some row ∧ p.column ≤ row.length
  back : offsetOfPoint bytes p = .ok offset
  lineFeeds : p.row = (bytes.take offset).count 10

lemma key_pointOfOffset_lt {i j : ℕ} (h : i < j) (hj : j ≤ bytes.length) :
    (pointOfOffset bytes i).key < (pointOfOffset bytes j).key := by
  have hmore : (bytes.take j).drop i ≠ [] := by
    refine List.ne_nil_of_length_pos ?_
    rw [List.length_drop, List.length_take_of_le hj]
    omega
  rw [pointOfOffset_eq (h.le.trans hj), pointOfOffset_eq hj, ← take_cut bytes h.le]
  exact key_pointAfter_lt _ hmore

lemma locates_pointAfter (front back : List UInt8) : Locates (front ++ back) (pointAfter front) front.length where
  row := by
    rw [rowStarts_append, List.length_append, (counts_pointAfter front).row]
    omega
  last i start hstart := by
    have hrow := (counts_pointAfter front).row
    rw [rowStarts_append] at hstart
    rcases Nat.lt_or_ge i (rowStarts front).length with hi | hi
    · rw [List.getElem?_append_left hi] at hstart
      exact iff_of_true (le_of_mem_rowStarts (List.mem_of_getElem? hstart)) (by omega)
    · rw [List.getElem?_append_right hi] at hstart
      have hbehind := (bounds_of_mem_rowStartsFrom (List.mem_of_getElem? hstart)).1
      exact iff_of_false (by omega) (by omega)
  column := by
    obtain ⟨last, hlength, hrow⟩ := row_around_cut front
    exact ⟨_, hrow back, by rw [List.length_append, hlength]; exact Nat.le_add_right _ _⟩
  back := offsetOfPoint_pointAfter front back
  lineFeeds := by rw [List.take_left, row_pointAfter]

end ConfigKeeper.Text

namespace ConfigKeeper.Elixir.Source

open Text

variable {s : Source} {n : Tree.Located} {front back : List Char}

def byteRange (s : Source) (n : Tree.Located) : ℕ × ℕ :=
  (byteOffset s.text.toList n.offset, byteOffset s.text.toList (n.offset + n.tree.text.length))

lemma Cut.byteRange (h : s.Cut n front back) :
    s.byteRange n = (byteLength front, byteLength (front ++ n.tree.text)) := by
  obtain ⟨hs, hn⟩ := h
  rw [Source.byteRange, byteOffset, byteOffset, hs, hn, ← List.length_append, List.take_left, List.append_assoc,
    List.take_left]

/-- Every offset in a source has a point that leads back to it, later offsets have later points, and the span of a
node, found by its points, is the range of its bytes. -/
theorem offsets_located (s : Source) :
    (∀ offset ≤ s.bytes.length, Locates s.bytes (pointOfOffset s.bytes offset) offset) ∧
      (∀ i j, i < j → j ≤ s.bytes.length → (pointOfOffset s.bytes i).key < (pointOfOffset s.bytes j).key) ∧
      ∀ n ∈ s.tree.nodes, s.nodeSpan n = .ok (s.byteRange n) ∧
        (s.bytes.take (s.byteRange n).2).drop (s.byteRange n).1 = encodeUtf8 n.tree.text := by
  refine ⟨fun offset h => ?_, fun i j => key_pointOfOffset_lt, fun n hn => ?_⟩
  · have hcut := locates_pointAfter (s.bytes.take offset) (s.bytes.drop offset)
    rwa [List.take_append_drop, List.length_take_of_le h, ← pointOfOffset_eq h] at hcut
  · obtain ⟨front, back, hcut⟩ := exists_cut hn
    rw [hcut.nodeSpan, hcut.byteRange]
    exact ⟨rfl, hcut.bytes_between⟩

end ConfigKeeper.Elixir.Source
