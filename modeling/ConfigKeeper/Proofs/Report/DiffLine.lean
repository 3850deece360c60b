import ConfigKeeper.Proofs.Console.Markup
import ConfigKeeper.Proofs.Diff.Emphasis
import ConfigKeeper.Proofs.Diff.LastLine
import ConfigKeeper.Report.DiffView

/-!
What is shown of a line of a script. After the numbers, the bar and the sign comes the text of the
line without the line feed that ends it. A carriage return at its end costs it one more character,
since it is counted but was never shown.
-/

namespace ConfigKeeper.Report

open Console Diff

section Margin

def margin (l : Line) : List Char :=
  lineNumber l.oldIndex ++ ' ' :: (lineNumber l.newIndex ++ (" |".toList ++ sign l.tag))

lemma not_mem_spaces {c : Char} (h : c ≠ ' ') (n : Nat) : c ∉ spaces n := fun hc => h (List.eq_of_mem_replicate hc)

lemma not_mem_lineNumber {c : Char} (hdigit : c.isDigit = false) (hspace : c ≠ ' ') (hminus : c ≠ '-')
    (index : Option Int) : c ∉ lineNumber index := by
  cases index with
  | none => exact not_mem_spaces hspace _
  | some i =>
    rw [lineNumber, List.mem_append, not_or]
    refine ⟨?_, not_mem_spaces hspace _⟩
    cases i + 1 with
    | ofNat n => exact Markup.not_mem_toString hdigit n
    | negSucc n =>
      change c ∉ ("-" ++ toString (n + 1)).toList
      rw [String.toList_append, List.mem_append, not_or]
      exact ⟨by simpa using hminus, Markup.not_mem_toString hdigit _⟩

lemma not_mem_margin {c : Char} (hdigit : c.isDigit = false) (hspace : c ≠ ' ') (hminus : c ≠ '-') (hbar : c ≠ '|')
    (hplus : c ≠ '+') (l : Line) : c ∉ margin l := by
  have hsign : c ∉ sign l.tag := by
    cases l.tag <;> simpa [sign]
  simp [margin, not_mem_lineNumber hdigit hspace hminus, hspace, hbar, hsign]

lemma isDropped_margin (l : Line) : ∀ c ∈ margin l, isDropped c = false := by
  intro c hc
  by_contra hdropped
  revert hc
  simp only [isDropped, Bool.or_eq_true, decide_eq_true_eq, Bool.not_eq_false] at hdropped
  rcases hdropped with (((rfl | rfl) | rfl) | rfl) | rfl <;>
    exact not_mem_margin (by decide) (by decide) (by decide) (by decide) (by decide) l

lemma length_margin_pos (l : Line) : 0 < (margin l).length := by
  simp [margin]

lemma plain_lineHead (l : Line) : (lineHead l).plain = margin l := by
  have hparts : margin l =
      [] ++ lineNumber l.oldIndex ++ [' '] ++ lineNumber l.newIndex ++ " |".toList ++ sign l.tag := by simp [margin]
  rw [← sanitized_eq_self (isDropped_margin l), hparts]
  simp only [lineHead, StyledText.plain_append, sanitized_append]
  rfl

end Margin

section Shown

variable {l : Line} {body : List Char}

lemma plain_appendPieces (style : String) (t : StyledText) (ps : List Piece) :
    (ps.foldl (appendPiece style) t).plain = t.plain ++ sanitized (wholeText ps) := by
  induction ps generalizing t with
  | nil => simp [sanitized]
  | cons p ps ih =>
    rw [List.foldl_cons, ih, appendPiece, StyledText.plain_append, wholeText_cons, sanitized_append, List.append_assoc]

lemma plain_formatLine (h : WellMarked l) : (formatLine l).plain =
    if terminatorLength l.value ≠ 0 then
      (margin l ++ sanitized l.value).take ((margin l ++ sanitized l.value).length - terminatorLength l.value)
    else margin l ++ sanitized l.value ++ if l.tag ≠ .equal then noNewlineNote else [] := by
  have hshown : (l.pieces.foldl (appendPiece (tagStyle l.tag)) (lineHead l)).plain = margin l ++ sanitized l.value := by
    rw [plain_appendPieces, plain_lineHead, h.whole]
  have hnote : sanitized noNewlineNote = noNewlineNote := by decide
  rw [formatLine]
  simp only [bne_iff_ne]
  split
  · rw [StyledText.plain_cropEnd, hshown]
  · split
    · rw [StyledText.plain_append, hshown, hnote]
    · rw [hshown, List.append_nil]

lemma isTerminator_of_endsLine {c : Char} (h : Line.endsLine c = true) : Text.isTerminator c = true := by
  simp only [Line.endsLine, Bool.or_eq_true, decide_eq_true_eq] at h
  rcases h with rfl | rfl <;> decide

lemma terminatorLength_eq_zero_iff (l : Line) : terminatorLength l.value = 0 ↔ l.missingNewline = true := by
  rw [missingNewline_iff, terminatorLength, List.length_eq_zero_iff, ← List.head?_reverse]
  cases l.value.reverse with
  | nil => simp
  | cons c r => simp [List.takeWhile_cons]

lemma terminatorLength_append (hbody : Text.Solid body) {ending : List Char}
    (hending : ending.all Line.endsLine = true) : terminatorLength (body ++ ending) = ending.length := by
  have hno : body.reverse.takeWhile Line.endsLine = [] := by
    cases hb : body.reverse with
    | nil => rfl
    | cons c r =>
      have hsolid := hbody c (List.mem_reverse.1 (hb ▸ List.mem_cons_self))
      refine List.takeWhile_cons_of_neg fun hends => ?_
      rw [isTerminator_of_endsLine hends] at hsolid
      cases hsolid
  rw [terminatorLength, List.reverse_append, List.takeWhile_append_of_pos (by simpa using hending), hno]
  simp

lemma plain_of_ending (h : WellMarked l) (hbody : Text.Solid body) {ending : List Char} (hne : ending ≠ [])
    (hending : ending.all Line.endsLine = true) (hvalue : l.value = body ++ ending) :
    (formatLine l).plain = (margin l ++ sanitized body ++ sanitized ending).take
      ((margin l ++ sanitized body).length + (sanitized ending).length - ending.length) := by
  rw [plain_formatLine h, hvalue, terminatorLength_append hbody hending, if_pos (by simpa using hne), sanitized_append,
    ← List.append_assoc, @List.length_append _ (margin l ++ sanitized body)]

lemma plain_of_newline (h : WellMarked l) (hbody : Text.Solid body) (hvalue : l.value = body ++ ['\n']) :
    (formatLine l).plain = margin l ++ sanitized body := by
  rw [plain_of_ending h hbody (by simp) (by decide) hvalue]
  exact List.take_left' rfl

lemma plain_of_return (h : WellMarked l) (hbody : Text.Solid body)
    (hvalue : l.value = body ++ ['\r'] ∨ l.value = body ++ ['\r', '\n']) :
    (formatLine l).plain = (margin l ++ sanitized body).dropLast := by
  -- The carriage return is counted with the terminator, but it was dropped when the text was put in.
  have hcr : sanitized ['\r'] = [] := by decide
  have hcrnl : sanitized ['\r', '\n'] = ['\n'] := by decide
  rcases hvalue with hvalue | hvalue
  · rw [plain_of_ending h hbody (by simp) (by decide) hvalue, hcr, List.append_nil, List.dropLast_eq_take]
    rfl
  · rw [plain_of_ending h hbody (by simp) (by decide) hvalue, hcrnl, List.dropLast_eq_take]
    exact List.take_append_of_le_length (by simp)

lemma plain_of_missing (h : WellMarked l) (hmissing : l.missingNewline = true) : (formatLine l).plain =
    margin l ++ sanitized l.value ++ if l.tag ≠ .equal then noNewlineNote else [] := by
  rw [plain_formatLine h, if_neg (not_not.2 ((terminatorLength_eq_zero_iff l).2 hmissing))]

lemma missingNewline_of_not_mem (hcr : '\r' ∉ l.value) (hnl : '\n' ∉ l.value) : l.missingNewline = true := by
  rw [missingNewline_iff]
  intro c hc
  have hmem := List.mem_of_getLast? hc
  have hne : c ≠ '\n' ∧ c ≠ '\r' := ⟨fun h => hnl (h ▸ hmem), fun h => hcr (h ▸ hmem)⟩
  simp [Line.endsLine, hne]

lemma not_missingNewline (hbody : Text.Solid body) {ending : List Char} (hne : ending ≠ [])
    (hending : ending.all Line.endsLine = true) (hvalue : l.value = body ++ ending) :
    ¬ l.missingNewline = true := by
  rw [← terminatorLength_eq_zero_iff, hvalue, terminatorLength_append hbody hending, List.length_eq_zero_iff]
  exact hne

lemma not_missingNewline_of_return (hbody : Text.Solid body)
    (hvalue : l.value = body ++ ['\r'] ∨ l.value = body ++ ['\r', '\n']) : ¬ l.missingNewline = true := by
  rcases hvalue with hvalue | hvalue
  · exact not_missingNewline hbody (by simp) (by decide) hvalue
  · exact not_missingNewline hbody (by simp) (by decide) hvalue

end Shown

section Notes

variable {old new : List Char} {l : Line}

/-- The text that is shown tells that no line feed ends the line. -/
def IsNoted (l : Line) : Prop := noNewlineNote <:+ (formatLine l).plain

lemma newline_not_mem_margin (l : Line) : '\n' ∉ margin l :=
  not_mem_margin (by decide) (by decide) (by decide) (by decide) (by decide) l

lemma not_isNoted {text : List Char} (htext : '\n' ∉ text)
    (h : ∀ c ∈ (formatLine l).plain, c ∈ margin l ++ sanitized text) : ¬ IsNoted l := by
  intro hnoted
  have hmem : '\n' ∈ margin l ++ sanitized text := h _ (hnoted.subset (by decide))
  rw [List.mem_append] at hmem
  exact hmem.elim (newline_not_mem_margin l) fun h => htext (List.mem_of_mem_filter h)

lemma isNoted_iff (hl : l ∈ script old new) : IsNoted l ↔ l.tag ≠ .equal ∧ l.missingNewline = true := by
  have hmarked := wellMarked_of_mem hl
  rcases (isLine_value hl).cases_end with ⟨body, hbody, hvalue⟩ | ⟨body, hbody, hvalue⟩ | ⟨hcr, hnl⟩
  · refine iff_of_false ?_ fun h => not_missingNewline hbody (by simp) (by decide) hvalue h.2
    refine not_isNoted (hbody.not_mem (by decide)) ?_
    rw [plain_of_newline hmarked hbody hvalue]
    exact fun c hc => hc
  · refine iff_of_false ?_ fun h => not_missingNewline_of_return hbody hvalue h.2
    refine not_isNoted (hbody.not_mem (by decide)) ?_
    rw [plain_of_return hmarked hbody hvalue]
    exact fun c hc => List.mem_of_mem_dropLast hc
  · have hmissing := missingNewline_of_not_mem hcr hnl
    have hplain := plain_of_missing hmarked hmissing
    rw [and_iff_left hmissing]
    by_cases htag : l.tag = .equal
    · rw [if_neg (not_not.2 htag), List.append_nil] at hplain
      exact iff_of_false (not_isNoted hnl fun c hc => hplain ▸ hc) (not_not.2 htag)
    · rw [if_pos htag] at hplain
      have hnoted : IsNoted l := by
        rw [IsNoted, hplain]
        exact List.suffix_append _ _
      exact iff_of_true hnoted htag

/-- Only last lines are marked for want of a line feed just if the other terminators stand nowhere but at the end
of the two texts. The changed lines that are marked are noted. -/
theorem only_last_marked_iff (old new : List Char) :
    ((∀ l ∈ script old new, l.missingNewline = true → IsLast old new l) ↔
      ∀ c ∈ old.dropLast ++ new.dropLast, Text.isTerminator c = true → Line.endsLine c = true) ∧
    ∀ l ∈ script old new, IsNoted l ↔ l.tag ≠ .equal ∧ l.missingNewline = true := by
  refine ⟨?_, fun l => isNoted_iff⟩
  rw [List.forall_mem_append, ← (covers_old old new).marked_last_iff, ← (covers_new old new).marked_last_iff]
  constructor
  · exact fun h => ⟨fun l hl hm => (h l hl hm).1, fun l hl hm => (h l hl hm).2⟩
  · exact fun h l hl hm => ⟨h.1 l hl hm, h.2 l hl hm⟩

theorem noted_before_last : ∃ l ∈ script "a\x0cb\n".toList "b\n".toList,
    l.missingNewline = true ∧ IsNoted l ∧ ¬ IsLast "a\x0cb\n".toList "b\n".toList l := by
  have hl : ⟨.delete, some 0, none, "a\x0c".toList, []⟩ ∈ script "a\x0cb\n".toList "b\n".toList := by decide +kernel
  have hmissing : (⟨.delete, some 0, none, "a\x0c".toList, []⟩ : Line).missingNewline = true := by decide
  exact ⟨_, hl, hmissing, (isNoted_iff hl).2 ⟨by decide, hmissing⟩, by decide +kernel⟩

end Notes

section Whole

variable {old new body : List Char} {l : Line}

def withoutEnd (v : List Char) : List Char :=
  match v.reverse with
  | '\n' :: '\r' :: r => r.reverse
  | '\n' :: r => r.reverse
  | '\r' :: r => r.reverse
  | _ => v

/-- A line as a whole: its margin, its text, and the note if it is a changed last line without a line feed. -/
def wholeLine (old new : List Char) (l : Line) : List Char :=
  margin l ++ sanitized (withoutEnd l.value) ++
    if l.tag ≠ .equal ∧ l.missingNewline = true ∧ IsLast old new l then noNewlineNote else []

def EndsOtherwise (v : List Char) : Prop := ∃ c ∈ v.getLast?, Text.isTerminator c = true ∧ Line.endsLine c = false

lemma withoutEnd_newline (hbody : Text.Solid body) : withoutEnd (body ++ ['\n']) = body := by
  have hcr : '\r' ∉ body := hbody.not_mem (by decide)
  obtain ⟨r, rfl⟩ : ∃ r : List Char, body = r.reverse := ⟨body.reverse, by simp⟩
  cases r with
  | nil => rfl
  | cons c r =>
    have hc : c ≠ '\r' := by
      rintro rfl
      simp at hcr
    simp [withoutEnd, hc]

lemma withoutEnd_return {v : List Char} (hvalue : v = body ++ ['\r'] ∨ v = body ++ ['\r', '\n']) :
    withoutEnd v = body := by
  rcases hvalue with rfl | rfl
  · simp [withoutEnd]
  · simp [withoutEnd]

lemma withoutEnd_of_not_mem {v : List Char} (hcr : '\r' ∉ v) (hnl : '\n' ∉ v) : withoutEnd v = v := by
  obtain ⟨r, rfl⟩ : ∃ r : List Char, v = r.reverse := ⟨v.reverse, by simp⟩
  cases r with
  | nil => rfl
  | cons c r =>
    have hne : c ≠ '\r' ∧ c ≠ '\n' := by
      constructor
      · rintro rfl
        simp at hcr
      · rintro rfl
        simp at hnl
    simp [withoutEnd, hne.1, hne.2]

lemma missingNewline_of_endsOtherwise (h : EndsOtherwise l.value) : l.missingNewline = true := by
  obtain ⟨c, hlast, -, hends⟩ := h
  rw [missingNewline_iff]
  intro d hd
  obtain rfl : c = d := Option.some.inj (hlast.symm.trans hd)
  exact hends

lemma wholeLine_of_not_missing (h : ¬ l.missingNewline = true) :
    wholeLine old new l = margin l ++ sanitized (withoutEnd l.value) := by
  rw [wholeLine, if_neg fun hdue => h hdue.2.1, List.append_nil]

lemma shown_whole_of_newline (h : WellMarked l) (hbody : Text.Solid body) (hvalue : l.value = body ++ ['\n']) :
    (formatLine l).plain = wholeLine old new l := by
  have hnot := not_missingNewline hbody (by simp) (by decide) hvalue
  rw [plain_of_newline h hbody hvalue, wholeLine_of_not_missing hnot, hvalue, withoutEnd_newline hbody]

lemma not_shown_whole_of_return (h : WellMarked l) (hbody : Text.Solid body)
    (hvalue : l.value = body ++ ['\r'] ∨ l.value = body ++ ['\r', '\n']) :
    (formatLine l).plain ≠ wholeLine old new l := by
  have hnot := not_missingNewline_of_return hbody hvalue
  rw [plain_of_return h hbody hvalue, wholeLine_of_not_missing hnot, withoutEnd_return hvalue]
  intro heq
  have hlength := congrArg List.length heq
  rw [List.length_dropLast, List.length_append] at hlength
  have hpos := length_margin_pos l
  omega

lemma shown_whole_iff_of_missing (h : WellMarked l) (hcr : '\r' ∉ l.value) (hnl : '\n' ∉ l.value) :
    (formatLine l).plain = wholeLine old new l ↔ (l.tag ≠ .equal → IsLast old new l) := by
  have hmissing := missingNewline_of_not_mem hcr hnl
  rw [plain_of_missing h hmissing, wholeLine, withoutEnd_of_not_mem hcr hnl, List.append_cancel_left_eq]
  by_cases htag : l.tag = .equal
  · rw [if_neg (not_not.2 htag), if_neg fun hdue => hdue.1 htag]
    exact iff_of_true rfl fun hne => absurd htag hne
  · rw [if_pos htag]
    by_cases hend : IsLast old new l
    · rw [if_pos ⟨htag, hmissing, hend⟩]
      exact iff_of_true rfl fun _ => hend
    · rw [if_neg fun hdue => hend hdue.2.2]
      exact iff_of_false (by decide) fun hif => hend (hif htag)

lemma isLast_of_not_endsOtherwise (hl : l ∈ script old new) (hmissing : l.missingNewline = true)
    (hother : ¬ EndsOtherwise l.value) : IsLast old new l := by
  apply isLast_of_open hl
  intro c hc
  by_contra hterminator
  exact hother ⟨c, hc, by simpa using hterminator, (missingNewline_iff l).1 hmissing c hc⟩

/-- A line of a script is shown as a whole just if no carriage return ends it and, if it is changed and another
terminator ends it, it is a last line. -/
theorem shown_whole_iff (hl : l ∈ script old new) : (formatLine l).plain = wholeLine old new l ↔
    '\r' ∉ l.value ∧ (l.tag ≠ .equal → EndsOtherwise l.value → IsLast old new l) := by
  have hmarked := wellMarked_of_mem hl
  rcases (isLine_value hl).cases_end with ⟨body, hbody, hvalue⟩ | ⟨body, hbody, hvalue⟩ | ⟨hcr, hnl⟩
  · have hcr : '\r' ∉ l.value := by simpa [hvalue] using hbody.not_mem (c := '\r') (by decide)
    -- a line feed at the end leaves no room for another terminator there
    have hother : ¬ EndsOtherwise l.value := fun hother =>
      not_missingNewline hbody (by simp) (by decide) hvalue (missingNewline_of_endsOtherwise hother)
    exact iff_of_true (shown_whole_of_newline hmarked hbody hvalue) ⟨hcr, fun _ h => absurd h hother⟩
  · have hcr : '\r' ∈ l.value := by rcases hvalue with hvalue | hvalue <;> simp [hvalue]
    exact iff_of_false (not_shown_whole_of_return hmarked hbody hvalue) fun h => h.1 hcr
  · rw [shown_whole_iff_of_missing hmarked hcr hnl, and_iff_right hcr]
    refine imp_congr_right fun _ => ⟨fun hend _ => hend, fun hend => ?_⟩
    by_cases hother : EndsOtherwise l.value
    · exact hend hother
    · exact isLast_of_not_endsOtherwise hl (missingNewline_of_not_mem hcr hnl) hother

theorem shown_whole_iff_at_end : let l : Line := ⟨.insert, none, some 1, "b\x0b".toList, []⟩
    l ∈ script "a\n".toList "a\nb\x0b".toList ∧
      ((formatLine l).plain = wholeLine "a\n".toList "a\nb\x0b".toList l ↔
        '\r' ∉ l.value ∧ (l.tag ≠ .equal → EndsOtherwise l.value → IsLast "a\n".toList "a\nb\x0b".toList l)) := by
  intro l
  have hl : l ∈ script "a\n".toList "a\nb\x0b".toList := by decide +kernel
  exact ⟨hl, shown_whole_iff hl⟩

theorem cropped_by_return : ∃ l ∈ script "ab\n".toList "ab\r\n".toList,
    (formatLine l).plain = "     1    |+a".toList ∧
      wholeLine "ab\n".toList "ab\r\n".toList l = "     1    |+ab".toList := by
  refine ⟨⟨.insert, none, some 0, "ab\r\n".toList, [(2, 3)]⟩, ?_, ?_, ?_⟩ <;> decide +kernel

end Whole

end ConfigKeeper.Report
