import ConfigKeeper.Lint.Marking
import ConfigKeeper.Proofs.Text.Utf8

/-!
Positions agree: the point that is counted while bytes are read, the offset found over the rows, and the
index of a character. Each is taken at a cut of the text, so its two sides stay in sight.
-/

namespace ConfigKeeper.Text

lemma byteLength_append (s s' : List Char) : byteLength (s ++ s') = byteLength s + byteLength s' := by
  simp only [← encodeUtf8_length, encodeUtf8, List.flatMap_append, List.length_append]

lemma encodeUtf8_append (s s' : List Char) : encodeUtf8 (s ++ s') = encodeUtf8 s ++ encodeUtf8 s' :=
  List.flatMap_append

lemma pointAfter_concat (bytes : List UInt8) (b : UInt8) :
    pointAfter (bytes ++ [b]) = (pointAfter bytes).next b := by
  rw [pointAfter, List.foldl_concat]
  rfl

lemma rowStartsFrom_append (base : Nat) (xs ys : List UInt8) :
    rowStartsFrom base (xs ++ ys) = rowStartsFrom base xs ++ rowStartsFrom (base + xs.length) ys := by
  induction xs generalizing base with
  | nil => rfl
  | cons b xs ih =>
    have hbase : base + (b :: xs).length = base + 1 + xs.length := by
      rw [List.length_cons]
      omega
    rw [List.cons_append, rowStartsFrom, rowStartsFrom, ih, hbase]
    split <;> rfl

lemma rowStarts_append (xs ys : List UInt8) :
    rowStarts (xs ++ ys) = rowStarts xs ++ rowStartsFrom xs.length ys := by
  rw [rowStarts, rowStartsFrom_append, Nat.zero_add]
  rfl

structure Counts (bytes : List UInt8) (p : Point) : Prop where
  row : (rowStarts bytes).length = p.row + 1
  column : ∃ start, (rowStarts bytes)[p.row]? = some start ∧ start + p.column = bytes.length

lemma Counts.next {bytes : List UInt8} {p : Point} (h : Counts bytes p) (b : UInt8) :
    Counts (bytes ++ [b]) (p.next b) := by
  obtain ⟨start, hstart, hcolumn⟩ := h.column
  have hrow := h.row
  have hend : (bytes ++ [b]).length = bytes.length + 1 := List.length_append
  rw [Point.next]
  by_cases hb : b = 10
  · have hrows : rowStarts (bytes ++ [b]) = rowStarts bytes ++ [bytes.length + 1] := by
      rw [rowStarts_append, rowStartsFrom, if_pos hb]
      rfl
    rw [if_pos hb]
    refine ⟨by rw [hrows, List.length_append, hrow]; rfl, bytes.length + 1, ?_, hend.symm⟩
    rw [hrows, List.getElem?_append_right hrow.le, hrow, Nat.sub_self]
    rfl
  · have hrows : rowStarts (bytes ++ [b]) = rowStarts bytes := by
      rw [rowStarts_append, rowStartsFrom, if_neg hb]
      exact List.append_nil _
    rw [if_neg hb]
    exact ⟨by rw [hrows, hrow], start, by rw [hrows, hstart], by rw [hend, ← hcolumn]; rfl⟩

lemma counts_pointAfter (bytes : List UInt8) : Counts bytes (pointAfter bytes) := by
  induction bytes using List.reverseRecOn with
  | nil => exact ⟨rfl, 0, rfl, rfl⟩
  | append_singleton bytes b ih =>
    rw [pointAfter_concat]
    exact ih.next b

theorem offsetOfPoint_pointAfter (front back : List UInt8) :
    offsetOfPoint (front ++ back) (pointAfter front) = .ok front.length := by
  obtain ⟨hrow, start, hstart, hcolumn⟩ := counts_pointAfter front
  have hfound : (rowStarts (front ++ back))[(pointAfter front).row]? = some start := by
    rw [rowStarts_append, List.getElem?_append_left (by omega), hstart]
  rw [offsetOfPoint, hfound]
  simp only [hcolumn, List.length_append, Nat.le_add_right, ↓reduceIte]

theorem charIndex?_append (front back : List Char) :
    charIndex? (front ++ back) (byteLength front) = some front.length := by
  induction front with
  | nil => rw [List.nil_append, byteLength, List.foldr_nil, charIndex?, List.length_nil]
  | cons c front ih =>
    have hsize := Char.utf8Size_pos c
    have hlength : byteLength (c :: front) = c.utf8Size - 1 + byteLength front + 1 := by
      rw [byteLength, List.foldr_cons, ← byteLength]
      omega
    rw [hlength, List.cons_append, charIndex?, if_pos (by omega),
      show c.utf8Size - 1 + byteLength front + 1 - c.utf8Size = byteLength front by omega, ih]
    rfl

lemma head_encode (c : Char) : ∃ lead more, String.utf8EncodeChar c = lead :: more ∧ isContinuation lead = false := by
  obtain ⟨lead, more, hc, hstep⟩ := utf8Step_encode c []
  refine ⟨lead, more, hc, Bool.eq_false_iff.2 fun hlead => ?_⟩
  rw [isContinuation_iff] at hlead
  -- a byte that continues a character starts none
  have hfault : utf8Step lead (more ++ []) = .fault 1 .invalidStart := by
    have hlow : ¬ lead < 0x80 := by
      simp only [UInt8.lt_iff_toNat_lt, UInt8.reduceToNat]
      omega
    have hhigh : lead < 0xc2 := by
      simp only [UInt8.lt_iff_toNat_lt, UInt8.reduceToNat]
      omega
    unfold utf8Step
    rw [if_neg hlow, if_pos (by simp [hhigh])]
  rw [hfault] at hstep
  cases hstep

theorem isContinuation_of_cut {front back : List Char} {b : UInt8}
    (h : (encodeUtf8 (front ++ back))[byteLength front]? = some b) : isContinuation b = false := by
  rw [encodeUtf8_append, ← encodeUtf8_length, List.getElem?_append_right le_rfl, Nat.sub_self] at h
  cases back with
  | nil => cases h
  | cons c back =>
    obtain ⟨lead, more, hc, hlead⟩ := head_encode c
    rw [encodeUtf8, List.flatMap_cons, hc, List.cons_append, List.getElem?_cons_zero] at h
    exact Option.some.inj h ▸ hlead

end ConfigKeeper.Text
