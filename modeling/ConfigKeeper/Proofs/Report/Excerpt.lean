import ConfigKeeper.Proofs.Lint.Span
import ConfigKeeper.Report.LintView

/-!
What an excerpt highlights. It shows the whole rows around a mark without the control characters that never
reach a terminal, but the highlight is placed by positions that count them. So it begins as many characters
late as were dropped before the mark in its row, and it is as long as the mark with those dropped from it.
-/

namespace ConfigKeeper

open Console Text

namespace Console.StyledText

def isStyled (t : StyledText) (style : String) (i : ℕ) : Bool :=
  t.spans.any fun s => s.style == style && s.start ≤ i && i < s.stop

def part (t : StyledText) (style : String) : List Char :=
  (t.plain.zipIdx.filter fun x => t.isStyled style x.2).map Prod.fst

lemma map_fst_filter_zipIdx (s : List Char) (a b k : ℕ) :
    ((s.zipIdx k).filter fun x => decide (a ≤ x.2) && decide (x.2 < b)).map Prod.fst =
      (s.take (b - k)).drop (a - k) := by
  -- for every first number, since the rest of the text is numbered from `k + 1`
  induction s generalizing k with
  | nil => simp
  | cons c s ih =>
    rw [List.zipIdx_cons, List.filter_cons]
    by_cases hb : k < b
    · rw [show b - k = b - (k + 1) + 1 by omega, List.take_succ_cons]
      by_cases ha : a ≤ k
      · have hstart : a - k = 0 := by omega
        have hnext : a - (k + 1) = 0 := by omega
        rw [if_pos (by simp [ha, hb]), List.map_cons, ih, hstart, hnext, List.drop_zero, List.drop_zero]
      · rw [if_neg (by simp [ha]), ih, show a - k = a - (k + 1) + 1 by omega, List.drop_succ_cons]
    · have hstop : b - k = 0 := by omega
      have hnext : b - (k + 1) = 0 := by omega
      rw [if_neg (by simp [hb]), ih, hstop, hnext, List.take_zero, List.take_zero, List.drop_nil, List.drop_nil]

variable {style : String} {start stop i : ℕ}

lemma plain_stylize (t : StyledText) (style : String) (start stop : ℕ) :
    (t.stylize style start stop).plain = t.plain := by
  rw [stylize]
  split <;> rfl

lemma isStyled_stylize (s : List Char) : ((ofText s).stylize style start stop).isStyled style i = true ↔
    start ≤ i ∧ i < stop ∧ i < (sanitized s).length := by
  rw [stylize]
  split
  · next hnone =>
    simp only [Bool.or_eq_true, decide_eq_true_eq] at hnone
    refine iff_of_false (by simp [isStyled, ofText]) ?_
    rintro ⟨hstart, hstop, hlength⟩
    rcases hnone with hnone | hnone
    · exact absurd (hlength.trans_le (hnone.trans hstart)) (lt_irrefl _)
    · exact absurd (hstop.trans_le (hnone.trans hstart)) (lt_irrefl _)
  · simp only [isStyled, ofText, List.nil_append, List.any_cons, List.any_nil, beq_self_eq_true, Bool.true_and,
      Bool.or_false, Bool.and_eq_true, decide_eq_true_eq]
    omega

lemma part_stylize (s : List Char) :
    ((ofText s).stylize style start stop).part style = ((sanitized s).take stop).drop start := by
  have hplain : ((ofText s).stylize style start stop).plain = sanitized s := plain_stylize _ _ _ _
  have hwindow := map_fst_filter_zipIdx (sanitized s) start stop 0
  rw [Nat.sub_zero, Nat.sub_zero] at hwindow
  rw [← hwindow, part, hplain]
  congr 1
  refine List.filter_congr fun x hx => ?_
  have hlength : x.2 < (sanitized s).length := by simpa using List.snd_lt_add_of_mem_zipIdx hx
  rw [Bool.eq_iff_iff, isStyled_stylize]
  simp [hlength]

end Console.StyledText

namespace Report

variable {d : Diagnostic} {i : ℕ}

def tailOf (d : Diagnostic) : List Char := d.after.takeWhile (· != '\n')

/-- The rows around the characters from `start` to `stop`, cut at line feeds that are searched from there, with
these characters highlighted. -/
def excerptAt (source : List Char) (start stop : ℕ) : StyledText :=
  let rowStart := lastRowStart (source.take start)
  let rowEnd := stop + ((source.drop stop).takeWhile (· != '\n')).length
  (StyledText.ofText (slice source rowStart rowEnd)).stylize highlight (start - rowStart) (stop - rowStart)

lemma slice_rows (d : Diagnostic) :
    slice d.source (lastRowStart d.before) (d.charSpan.2 + (tailOf d).length : ℕ) =
      d.leadIn ++ d.marked ++ tailOf d := by
  obtain ⟨front, hbefore, hlength, -⟩ := lastRow_cut d.before
  change d.before = front ++ d.leadIn at hbefore
  have hafter := List.takeWhile_append_dropWhile (p := (· != '\n')) (l := d.after)
  have hslice := slice_cut front (d.leadIn ++ d.marked ++ tailOf d) (d.after.dropWhile (· != '\n'))
  have hsource : front ++ (d.leadIn ++ d.marked ++ tailOf d) ++ d.after.dropWhile (· != '\n') = d.source := by
    simp only [Diagnostic.source, tailOf, hbefore, List.append_assoc, hafter]
  have hend : (front ++ (d.leadIn ++ d.marked ++ tailOf d)).length = d.charSpan.2 + (tailOf d).length := by
    simp only [Diagnostic.charSpan, hbefore, List.length_append, Nat.add_assoc]
  rwa [hsource, hend, hlength] at hslice

lemma excerptAt_charSpan (d : Diagnostic) : excerptAt d.source d.charSpan.1 d.charSpan.2 = formatExcerpt d := by
  have htake : d.source.take d.charSpan.1 = d.before := by
    rw [Diagnostic.source, List.append_assoc]
    exact List.take_left
  have hdrop : d.source.drop d.charSpan.2 = d.after := List.drop_left
  have hlead := d.length_leadIn
  have hstart : d.charSpan.1 - lastRowStart d.before = d.leadIn.length := by
    rw [Diagnostic.charSpan]
    omega
  have hstop : d.charSpan.2 - lastRowStart d.before = d.leadIn.length + d.marked.length := by
    rw [Diagnostic.charSpan, List.length_append]
    omega
  rw [excerptAt, htake, hdrop]
  change (StyledText.ofText (slice d.source _ (d.charSpan.2 + (tailOf d).length : ℕ))).stylize _ _ _ = _
  rw [slice_rows, hstart, hstop]
  rfl

lemma plain_formatExcerpt (d : Diagnostic) :
    (formatExcerpt d).plain = sanitized (d.leadIn ++ d.marked ++ tailOf d) := StyledText.plain_stylize _ _ _ _

lemma exists_rows (d : Diagnostic) : ∃ k l, RowStart d.source d.charSpan.1 k ∧ RowEnd d.source d.charSpan.2 l ∧
    (formatExcerpt d).plain = sanitized (slice d.source k l) := by
  refine ⟨lastRowStart d.before, d.charSpan.2 + (tailOf d).length, ?_,
    rowEnd_takeWhile (d.before ++ d.marked) d.after, ?_⟩
  · rw [Diagnostic.source, List.append_assoc]
    exact rowStart_lastRowStart d.before _
  · rw [plain_formatExcerpt, slice_rows]

def HighlightsMark (d : Diagnostic) : Prop := ∀ i, (formatExcerpt d).isStyled highlight i = true ↔
  (sanitized d.leadIn).length ≤ i ∧ i < (sanitized (d.leadIn ++ d.marked)).length

/-- No character is dropped before the mark in its row or, if something is shown behind it, in the mark itself;
or nothing is shown of the mark, and not more is shown behind it than was dropped before it. -/
def IsAligned (d : Diagnostic) : Prop :=
  d.marked = [] ∨
  (sanitized d.leadIn = d.leadIn ∧ (sanitized d.marked = d.marked ∨ sanitized (tailOf d) = [])) ∨
  (sanitized d.marked = [] ∧ (sanitized (tailOf d)).length ≤ d.leadIn.countP isDropped)

lemma length_sanitized (s : List Char) : (sanitized s).length + s.countP isDropped = s.length := by
  have hsplit := List.length_eq_countP_add_countP isDropped (l := s)
  rw [hsplit, sanitized, ← List.countP_eq_length_filter, Nat.add_comm]
  congr 1
  refine List.countP_congr fun c _ => ?_
  simp

lemma sanitized_eq_self_iff (s : List Char) : sanitized s = s ↔ s.countP isDropped = 0 := by
  rw [sanitized, List.filter_eq_self, List.countP_eq_zero]
  simp

/-- A window that begins `k` late and is `m` too long, cut `q` behind the mark, is the mark of `p` characters. -/
lemma window_iff {l k p m q : ℕ} :
    (∀ i, l + k ≤ i ∧ i < l + k + (p + m) ∧ i < l + p + q ↔ l ≤ i ∧ i < l + p) ↔
      p + m = 0 ∨ (k = 0 ∧ (m = 0 ∨ q = 0)) ∨ (p = 0 ∧ q ≤ k) := by
  constructor
  · intro h
    -- the first place of the mark, the first one behind it and the first place of the window decide
    have hfirst := h l
    have hbehind := h (l + p)
    have hlate := h (l + k)
    omega
  · intro h i
    rcases h with h | h | h <;> omega

lemma highlightsMark_iff (d : Diagnostic) : HighlightsMark d ↔ IsAligned d := by
  have hlead := length_sanitized d.leadIn
  have hmarked := length_sanitized d.marked
  have hstyled : ∀ i, (formatExcerpt d).isStyled highlight i = true ↔ d.leadIn.length ≤ i ∧
      i < d.leadIn.length + d.marked.length ∧ i < (sanitized (d.leadIn ++ d.marked ++ tailOf d)).length :=
    fun _ => StyledText.isStyled_stylize _
  rw [HighlightsMark, IsAligned]
  simp only [hstyled, sanitized_append, List.length_append, sanitized_eq_self_iff, ← List.length_eq_zero_iff,
    ← hlead, ← hmarked]
  exact window_iff

lemma part_formatExcerpt (d : Diagnostic) : (formatExcerpt d).part highlight =
    ((sanitized (d.marked ++ tailOf d)).drop (d.leadIn.countP isDropped)).take d.marked.length := by
  have hpart : (formatExcerpt d).part highlight =
      ((sanitized (d.leadIn ++ d.marked ++ tailOf d)).take (d.leadIn.length + d.marked.length)).drop d.leadIn.length :=
    StyledText.part_stylize _
  rw [hpart, List.drop_take, Nat.add_sub_cancel_left, List.append_assoc, sanitized_append d.leadIn,
    ← length_sanitized d.leadIn, ← List.drop_drop, List.drop_left]

lemma part_of_aligned (h : IsAligned d) : (formatExcerpt d).part highlight = sanitized d.marked := by
  have hlength := length_sanitized d.marked
  rw [part_formatExcerpt, sanitized_append]
  rcases h with hnone | ⟨hlead, hmarked⟩ | ⟨hmarked, htail⟩
  · rw [hnone]
    rfl
  · rw [sanitized_eq_self_iff] at hlead
    rw [hlead, List.drop_zero]
    rcases hmarked with hmarked | htail
    · rw [hmarked, List.take_left]
    · rw [htail, List.append_nil, List.take_of_length_le (by omega)]
  · rw [hmarked, List.nil_append, List.drop_of_length_le htail, List.take_nil]

/-- An excerpt shows the whole rows around the mark. Of what it shows, it highlights as many characters as the
mark has, beginning as many behind the first of the mark as characters before it in its row are not shown.
So it highlights just the mark exactly if the mark is aligned. -/
theorem highlights_mark_iff (d : Diagnostic) :
    formatExcerpt d = excerptAt d.source d.charSpan.1 d.charSpan.2 ∧
    (∃ k l, RowStart d.source d.charSpan.1 k ∧ RowEnd d.source d.charSpan.2 l ∧
      (formatExcerpt d).plain = sanitized (slice d.source k l)) ∧
    (formatExcerpt d).part highlight =
      ((sanitized (d.marked ++ tailOf d)).drop (d.leadIn.countP isDropped)).take d.marked.length ∧
    (HighlightsMark d ↔ IsAligned d) ∧
    (IsAligned d → (formatExcerpt d).part highlight = sanitized d.excerpt.toList) := by
  refine ⟨(excerptAt_charSpan d).symm, exists_rows d, part_formatExcerpt d, highlightsMark_iff d, fun h => ?_⟩
  rw [part_of_aligned h, Diagnostic.excerpt, String.toList_ofList]

def behindFormFeed : Diagnostic := ⟨"rule", "config/dev.exs", ['\x0c'], ['a', 'b'], [], "message", "advice"⟩

theorem highlight_misplaced :
    Diagnostic.ofSpan "rule" "config/dev.exs" "message" "advice" ['\x0c', 'a', 'b'] 1 3 = .ok behindFormFeed ∧
      sanitized behindFormFeed.excerpt.toList = ['a', 'b'] ∧ (formatExcerpt behindFormFeed).part highlight = ['b'] := by
  decide

end Report

end ConfigKeeper
