import ConfigKeeper.Proofs.Text.Position
import ConfigKeeper.Text.Slice

/-!
Where characters and rows begin in a text. A byte offset has a character index just if no byte that continues
a character stands there, and the index is that of the prefix with so many bytes. A row begins behind a line
feed, and there are as many of them among the bytes as among the characters.
-/

namespace ConfigKeeper.Text

section Characters

variable {s : List Char} {c : Char} {n i j : ℕ} {b : UInt8}

lemma byteLength_cons (c : Char) (s : List Char) : byteLength (c :: s) = c.utf8Size + byteLength s := rfl

lemma encodeUtf8_cons (c : Char) (s : List Char) : encodeUtf8 (c :: s) = String.utf8EncodeChar c ++ encodeUtf8 s :=
  List.flatMap_cons

lemma take_cut {α : Type} (s : List α) (h : i ≤ j) : s.take i ++ (s.take j).drop i = s.take j := by
  have hsplit := List.take_append_drop i (s.take j)
  rwa [List.take_take, min_eq_left h] at hsplit

lemma byteLength_take_le (s : List Char) (h : i ≤ j) : byteLength (s.take i) ≤ byteLength (s.take j) := by
  rw [← take_cut s h, byteLength_append]
  exact Nat.le_add_right _ _

lemma byteLength_take_lt (h : i < j) (hj : j ≤ s.length) : byteLength (s.take i) < byteLength (s.take j) := by
  have hnext : s.take (i + 1) = s.take i ++ [s[i]] := (List.take_append_getElem (by omega)).symm
  have hsize := Char.utf8Size_pos s[i]
  refine Nat.lt_of_lt_of_le ?_ (byteLength_take_le s h)
  rw [hnext, byteLength_append, byteLength_cons]
  omega

lemma isContinuation_of_mem_tail (h : b ∈ (String.utf8EncodeChar c).tail) : isContinuation b = true := by
  rw [String.utf8EncodeChar] at h
  split_ifs at h
  · simp at h
  · rw [List.tail_cons, List.mem_singleton] at h
    exact h ▸ isContinuation_byte (Nat.mod_lt _ (by decide))
  · rw [List.tail_cons, List.mem_pair] at h
    rcases h with rfl | rfl <;> exact isContinuation_byte (Nat.mod_lt _ (by decide))
  · simp only [List.tail_cons, List.mem_cons, List.not_mem_nil, or_false] at h
    rcases h with rfl | rfl | rfl <;> exact isContinuation_byte (Nat.mod_lt _ (by decide))

lemma isContinuation_iff_mask (b : UInt8) : isContinuation b = (b &&& 0xc0 == 0x80) := by
  -- there are only so many bytes
  have hall : ∀ n : Fin 256, isContinuation (UInt8.ofNat n) = (UInt8.ofNat n &&& 0xc0 == 0x80) := by decide +kernel
  have hb := hall ⟨b.toNat, b.toNat_lt⟩
  rwa [UInt8.ofNat_toNat] at hb

lemma charIndex?_cons (c : Char) (s : List Char) (h : 0 < n) : charIndex? (c :: s) n =
    if c.utf8Size ≤ n then (charIndex? s (n - c.utf8Size)).map (· + 1) else none := by
  obtain ⟨m, rfl⟩ : ∃ m, n = m + 1 := ⟨n - 1, by omega⟩
  rfl

lemma charIndex?_eq_some_iff : charIndex? s n = some i ↔ i ≤ s.length ∧ byteLength (s.take i) = n := by
  constructor
  · intro h
    induction s generalizing n i with
    | nil =>
      cases n with
      | zero =>
        obtain rfl : 0 = i := Option.some.inj h
        exact ⟨le_rfl, rfl⟩
      | succ n => cases h
    | cons c s ih =>
      rcases Nat.eq_zero_or_pos n with rfl | hn
      · obtain rfl : 0 = i := Option.some.inj h
        exact ⟨Nat.zero_le _, rfl⟩
      · rw [charIndex?_cons c s hn] at h
        split at h
        · obtain ⟨k, hk, rfl⟩ := Option.map_eq_some_iff.1 h
          obtain ⟨hle, hlength⟩ := ih hk
          refine ⟨Nat.succ_le_succ hle, ?_⟩
          rw [List.take_succ_cons, byteLength_cons]
          omega
        · cases h
  · rintro ⟨hi, rfl⟩
    have h := charIndex?_append (s.take i) (s.drop i)
    rwa [List.take_append_drop, List.length_take_of_le hi] at h

lemma charIndex?_eq_none_iff : charIndex? s n = none ↔
    byteLength s < n ∨ ∃ b, (encodeUtf8 s)[n]? = some b ∧ isContinuation b = true := by
  induction s generalizing n with
  | nil => cases n <;> simp [charIndex?, byteLength, encodeUtf8]
  | cons c s ih =>
    have hsize : (String.utf8EncodeChar c).length = c.utf8Size := String.length_utf8EncodeChar c
    rcases Nat.eq_zero_or_pos n with rfl | hn
    · obtain ⟨lead, more, hc, hlead⟩ := head_encode c
      simp [charIndex?, encodeUtf8_cons, hc, hlead]
    · rw [charIndex?_cons c s hn, encodeUtf8_cons, byteLength_cons]
      split
      · next hle =>
        rw [Option.map_eq_none_iff, ih, List.getElem?_append_right (hsize ▸ hle), hsize]
        exact or_congr (by omega) Iff.rfl
      · next hlt =>
        -- the offset is within `c`, behind its first byte
        refine iff_of_true rfl (.inr ?_)
        have hn' : n < (String.utf8EncodeChar c).length := by omega
        refine ⟨_, List.getElem?_append_left hn' |>.trans (List.getElem?_eq_getElem hn'), ?_⟩
        refine isContinuation_of_mem_tail (c := c) ?_
        rw [← List.drop_one]
        exact List.mem_drop_iff_getElem.2 ⟨n - 1, by omega, by simp [show 1 + (n - 1) = n by omega]⟩

lemma newline_of_encode {more : List UInt8} (h : String.utf8EncodeChar c = 10 :: more) : c = '\n' := by
  obtain ⟨lead, rest, hc, hstep⟩ := utf8Step_encode c []
  rw [h, List.cons.injEq] at hc
  obtain ⟨rfl, rfl⟩ := hc
  have hnewline : utf8Step 10 (more ++ []) = .char '\n' 1 := rfl
  exact (Utf8Step.char.inj (hnewline.symm.trans hstep)).1.symm

lemma newline_not_mem_encode (hc : c ≠ '\n') : 10 ∉ String.utf8EncodeChar c := by
  intro hmem
  cases he : String.utf8EncodeChar c with
  | nil => simp [he] at hmem
  | cons lead more =>
    rw [he, List.mem_cons] at hmem
    rcases hmem with rfl | hmem
    · exact hc (newline_of_encode he)
    · have htail : isContinuation 10 = true := isContinuation_of_mem_tail (c := c) (by rwa [he])
      exact absurd htail (by decide)

lemma count_newline (s : List Char) : (encodeUtf8 s).count 10 = s.count '\n' := by
  induction s with
  | nil => rfl
  | cons c s ih =>
    rw [encodeUtf8_cons, List.count_append, ih]
    by_cases hc : c = '\n'
    · rw [hc, List.count_cons_self, Nat.add_comm]
      rfl
    · rw [List.count_cons_of_ne hc, List.count_eq_zero.2 (newline_not_mem_encode hc), Nat.zero_add]

end Characters

section Rows

lemma slice_cut {α : Type} (front middle back : List α) :
    slice (front ++ middle ++ back) front.length (front ++ middle).length = middle := by
  have hpos : ∀ (i : ℕ) (s : List α), i ≤ s.length → slicePosition s.length i = i := by
    intro i s hi
    rw [slicePosition, if_neg (by omega), Int.toNat_natCast, min_eq_left hi]
  rw [slice, hpos _ _ (by simp), hpos _ _ (by simp only [List.length_append]; omega), List.take_left, List.drop_left]

structure RowStart (s : List Char) (i k : ℕ) : Prop where
  le : k ≤ i
  start : k = 0 ∨ s[k - 1]? = some '\n'
  clear : '\n' ∉ (s.take i).drop k

structure RowEnd (s : List Char) (i k : ℕ) : Prop where
  le : i ≤ k
  stop : k = s.length ∨ s[k]? = some '\n'
  clear : '\n' ∉ (s.take k).drop i

lemma not_mem_takeWhile_ne (c : Char) (s : List Char) : c ∉ s.takeWhile (· != c) := by
  intro h
  simpa using List.all_eq_true.1 (List.all_takeWhile (l := s)) c h

lemma dropWhile_ne_cases (c : Char) (s : List Char) :
    s.dropWhile (· != c) = [] ∨ ∃ rest, s.dropWhile (· != c) = c :: rest := by
  cases h : s.dropWhile (· != c) with
  | nil => exact .inl rfl
  | cons d rest =>
    have hd : d = c := by simpa [h] using List.head?_dropWhile_not (· != c) s
    exact .inr ⟨rest, by rw [hd]⟩

lemma lastRow_cut (s : List Char) : ∃ front, s = front ++ (s.reverse.takeWhile (· != '\n')).reverse ∧
    front.length = lastRowStart s ∧ (front = [] ∨ ∃ rows, front = rows ++ ['\n']) := by
  refine ⟨(s.reverse.dropWhile (· != '\n')).reverse, ?_, List.length_reverse, ?_⟩
  · rw [← List.reverse_append, List.takeWhile_append_dropWhile, List.reverse_reverse]
  · rcases dropWhile_ne_cases '\n' s.reverse with h | ⟨rest, h⟩
    · exact .inl (by rw [h, List.reverse_nil])
    · exact .inr ⟨rest.reverse, by rw [h, List.reverse_cons]⟩

lemma rowStart_lastRowStart (s back : List Char) : RowStart (s ++ back) s.length (lastRowStart s) := by
  obtain ⟨front, hs, hlength, hfront⟩ := lastRow_cut s
  have hclear : '\n' ∉ (s.reverse.takeWhile (· != '\n')).reverse := by
    rw [List.mem_reverse]
    exact not_mem_takeWhile_ne _ _
  generalize (s.reverse.takeWhile (· != '\n')).reverse = last at hs hclear
  rw [← hlength]
  refine ⟨by rw [hs, List.length_append]; omega, ?_, by rwa [List.take_left, hs, List.drop_left]⟩
  rcases hfront with rfl | ⟨rows, rfl⟩
  · exact .inl rfl
  · refine .inr ?_
    rw [hs]
    simp

lemma rowEnd_takeWhile (s back : List Char) :
    RowEnd (s ++ back) s.length (s.length + (back.takeWhile (· != '\n')).length) := by
  have hclear := not_mem_takeWhile_ne '\n' back
  have hback := List.takeWhile_append_dropWhile (p := (· != '\n')) (l := back)
  have hnext := dropWhile_ne_cases '\n' back
  generalize back.takeWhile (· != '\n') = row at hclear hback
  generalize back.dropWhile (· != '\n') = rest at hback hnext
  rw [← hback, ← List.append_assoc, ← List.length_append]
  refine ⟨by rw [List.length_append]; omega, ?_, by rwa [List.take_left, List.drop_left]⟩
  rcases hnext with rfl | ⟨rest, rfl⟩
  · exact .inl (by rw [List.append_nil])
  · exact .inr (by simp)

end Rows

end ConfigKeeper.Text
