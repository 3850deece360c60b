import ConfigKeeper.Lint.Span
import ConfigKeeper.Proofs.Text.Boundary

namespace ConfigKeeper

open Text

namespace SourceSpan

variable {x : SourceSpan} {i j : ℕ} {offset : ℤ}

structure IsRange (x : SourceSpan) (i j : ℕ) : Prop where
  ordered : i ≤ j
  within : j ≤ x.source.length
  start : x.start = (encodeUtf8 (x.source.take i)).length
  stop : x.stop = (encodeUtf8 (x.source.take j)).length

structure ReadsAs (x : SourceSpan) (d : Diagnostic) : Prop where
  charSpan : x.charSpan = .ok d.charSpan
  excerpt : x.excerpt = .ok d.excerpt
  line : x.line = d.line
  column : x.column = .ok d.column

lemma splitsChar_iff (x : SourceSpan) (h : offset ≤ x.bytes.length) :
    x.splitsChar offset = true ↔ charIndex? x.source offset.toNat = none := by
  rw [bytes, encodeUtf8_length] at h
  have hwithin : ¬ byteLength x.source < offset.toNat := by omega
  rw [charIndex?_eq_none_iff, or_iff_right hwithin, splitsChar, Option.any_eq_true]
  simp only [← isContinuation_iff_mask]
  rfl

lemma map_positions (x : SourceSpan) :
    (Diagnostic.positions x.source x.start x.stop).map (fun _ => ()) = x.check := by
  rw [Diagnostic.positions, check, bytes, encodeUtf8_length]
  by_cases hbounds : (0 ≤ x.start && x.start ≤ x.stop && x.stop ≤ byteLength x.source) = true
  · simp only [hbounds, ↓reduceIte]
    simp only [Bool.and_eq_true, decide_eq_true_eq] at hbounds
    have hsize : x.bytes.length = byteLength x.source := encodeUtf8_length _
    have hstart := x.splitsChar_iff (show x.start ≤ x.bytes.length by omega)
    have hstop := x.splitsChar_iff (show x.stop ≤ x.bytes.length by omega)
    cases hi : charIndex? x.source x.start.toNat with
    | none =>
      rw [if_pos (hstart.2 hi)]
      rfl
    | some i =>
      rw [if_neg (by simp [hstart, hi])]
      cases hj : charIndex? x.source x.stop.toNat with
      | none =>
        rw [if_pos (hstop.2 hj)]
        rfl
      | some j =>
        rw [if_neg (by simp [hstop, hj])]
        rfl
  · simp only [hbounds]
    rfl

lemma positions_eq_ok_iff : Diagnostic.positions x.source x.start x.stop = .ok (i, j) ↔ x.IsRange i j := by
  constructor
  · intro h
    rw [Diagnostic.positions] at h
    split at h
    · next hbounds =>
      simp only [Bool.and_eq_true, decide_eq_true_eq] at hbounds
      split at h
      · cases h
      · cases h
      · next hi hj =>
        cases h
        obtain ⟨hi, hstart⟩ := charIndex?_eq_some_iff.1 hi
        obtain ⟨hj, hstop⟩ := charIndex?_eq_some_iff.1 hj
        refine ⟨?_, hj, ?_, ?_⟩
        · -- a longer prefix has more bytes, so the ends come in their order
          by_contra hlt
          have hless := byteLength_take_lt (not_le.1 hlt) hi
          omega
        · rw [encodeUtf8_length]
          omega
        · rw [encodeUtf8_length]
          omega
    · cases h
  · rintro ⟨hordered, hwithin, hstart, hstop⟩
    rw [encodeUtf8_length] at hstart hstop
    have hi := charIndex?_eq_some_iff.2 ⟨hordered.trans hwithin, rfl⟩
    have hj := charIndex?_eq_some_iff.2 ⟨hwithin, rfl⟩
    have hle := byteLength_take_le x.source hordered
    have hsize := byteLength_take_le x.source hwithin
    rw [List.take_length] at hsize
    rw [Diagnostic.positions, hstart, hstop, Int.toNat_natCast, Int.toNat_natCast, hi, hj,
      if_pos (by simp [hle, hsize])]

lemma check_eq_ok_iff : x.check = .ok () ↔ ∃ i j, x.IsRange i j := by
  simp only [← map_positions, ← positions_eq_ok_iff]
  cases Diagnostic.positions x.source x.start x.stop with
  | error f => simp [Except.map]
  | ok ends => exact iff_of_true rfl ⟨ends.1, ends.2, rfl⟩

end SourceSpan

namespace Diagnostic

variable {x : SourceSpan} {i j : ℕ}

structure IsOn (d : Diagnostic) (s : List Char) (i j : ℕ) : Prop where
  source : d.source = s
  charSpan : d.charSpan = (i, j)
  excerpt : d.excerpt = String.ofList (slice s i j)
  line : d.line = 1 + (s.take i).count '\n'
  column : ∃ k, RowStart s i k ∧ d.column = 1 + (i - k)

def toSpan (d : Diagnostic) : SourceSpan := ⟨d.source, d.span.1, d.span.2⟩

lemma front_toSpan (d : Diagnostic) : d.toSpan.front = encodeUtf8 d.before := by
  have hslice := slice_cut [] (encodeUtf8 d.before) (encodeUtf8 (d.marked ++ d.after))
  rw [List.nil_append, ← encodeUtf8_append, ← List.append_assoc, encodeUtf8_length] at hslice
  exact hslice

lemma covered_toSpan (d : Diagnostic) : d.toSpan.covered = encodeUtf8 d.marked := by
  have hslice := slice_cut (encodeUtf8 d.before) (encodeUtf8 d.marked) (encodeUtf8 d.after)
  rw [← encodeUtf8_append, ← encodeUtf8_append, encodeUtf8_length, encodeUtf8_length] at hslice
  exact hslice

lemma length_leadIn (d : Diagnostic) : lastRowStart d.before + d.leadIn.length = d.before.length := by
  obtain ⟨front, hbefore, hlength, -⟩ := lastRow_cut d.before
  conv_rhs => rw [hbefore]
  rw [← hlength, List.length_append]
  rfl

lemma readsAs_toSpan (d : Diagnostic) : d.toSpan.ReadsAs d := by
  have hexcerpt : d.toSpan.excerpt = .ok d.excerpt := by
    rw [SourceSpan.excerpt, covered_toSpan, decodeUtf8_encodeUtf8]
    rfl
  have hfront := decodeUtf8_encodeUtf8 d.before
  rw [← front_toSpan] at hfront
  refine ⟨?_, hexcerpt, ?_, ?_⟩
  · rw [SourceSpan.charSpan, hfront, hexcerpt]
    change Except.ok (d.before.length, d.before.length + d.excerpt.length) = _
    rw [charSpan, excerpt, String.length_ofList, List.length_append]
  · rw [SourceSpan.line, front_toSpan, count_newline, line]
  · have hlength := d.length_leadIn
    rw [SourceSpan.column, hfront, column]
    change Except.ok (d.before.length - lastRowStart d.before + 1) = _
    rw [← hlength, Nat.add_sub_cancel_left]

lemma isOn_charSpan (d : Diagnostic) : d.IsOn d.source d.charSpan.1 d.charSpan.2 where
  source := rfl
  charSpan := rfl
  excerpt := by rw [charSpan, source, slice_cut, excerpt]
  line := by rw [charSpan, source, List.append_assoc, List.take_left, line, Nat.add_comm]
  column := by
    have hlength := d.length_leadIn
    refine ⟨lastRowStart d.before, ?_, ?_⟩
    · rw [source, List.append_assoc]
      exact rowStart_lastRowStart d.before _
    · rw [column, charSpan]
      omega

lemma toSpan_ofPositions (rule file message advice : String) (h : x.IsRange i j) :
    (ofPositions rule file message advice x.source i j).toSpan = x ∧
      (ofPositions rule file message advice x.source i j).charSpan = (i, j) := by
  have hi : i ≤ x.source.length := h.ordered.trans h.within
  have hbefore : (ofPositions rule file message advice x.source i j).before = x.source.take i := rfl
  have hmarked : (ofPositions rule file message advice x.source i j).before ++
      (ofPositions rule file message advice x.source i j).marked = x.source.take j := take_cut _ h.ordered
  constructor
  · rw [toSpan, span, source, hmarked, hbefore, ← encodeUtf8_length, ← encodeUtf8_length, ← h.start, ← h.stop]
    change (⟨x.source.take j ++ x.source.drop j, x.start, x.stop⟩ : SourceSpan) = x
    rw [List.take_append_drop]
  · rw [charSpan, hmarked, hbefore, List.length_take_of_le h.within, List.length_take_of_le hi]

lemma ofSpan_of_isRange (rule file message advice : String) (h : x.IsRange i j) :
    ofSpan rule file message advice x.source x.start x.stop =
      .ok (ofPositions rule file message advice x.source i j) := by
  rw [ofSpan, SourceSpan.positions_eq_ok_iff.2 h]
  rfl

/-- A span is accepted exactly if it reaches from one character position of the source to another. The diagnostic
on it tells these positions, the text between them, the row of the first and the column in it, and reading
these back from the bytes never fails. -/
theorem accepted_iff_range (rule file message advice : String) (x : SourceSpan) :
    (ofSpan rule file message advice x.source x.start x.stop).map (fun _ => ()) = x.check ∧
      (x.check = .ok () ↔ ∃ i j, x.IsRange i j) ∧
      ∀ i j, x.IsRange i j → ∃ d, ofSpan rule file message advice x.source x.start x.stop = .ok d ∧
        d.IsOn x.source i j ∧ x.ReadsAs d := by
  refine ⟨?_, SourceSpan.check_eq_ok_iff, fun i j h => ?_⟩
  · rw [← SourceSpan.map_positions, ofSpan]
    cases positions x.source x.start x.stop <;> rfl
  · -- a diagnostic made from positions spans the bytes between them
    obtain ⟨hspan, hends⟩ := toSpan_ofPositions rule file message advice h
    have hsource : (ofPositions rule file message advice x.source i j).source = x.source :=
      congrArg SourceSpan.source hspan
    have hon := isOn_charSpan (ofPositions rule file message advice x.source i j)
    have hreads := readsAs_toSpan (ofPositions rule file message advice x.source i j)
    rw [hends, hsource] at hon
    rw [hspan] at hreads
    exact ⟨_, ofSpan_of_isRange rule file message advice h, hon, hreads⟩

example : (⟨['é', '☕', '\n', 'x'], 6, 7⟩ : SourceSpan).charSpan = .ok (3, 4) := by decide

end Diagnostic

end ConfigKeeper
