import ConfigKeeper.Text.Blank
import ConfigKeeper.Text.Split
import Mathlib.Tactic

/-!
What splitting and trimming find. A split in two tells that the separator stands in one place and in no
other, and trimming stops at the first and the last character that is not blank.
-/

namespace ConfigKeeper.Text

variable {sep : Char} {s p q t w : List Char} {ps : List (List Char)}

section Characters

lemma splitAt_of_not_mem (h : sep ∉ s) : splitAt sep s = [s] := by
  induction s with
  | nil => rfl
  | cons c s ih =>
    rw [List.mem_cons, not_or] at h
    rw [splitAt, if_neg (Ne.symm h.1), ih h.2]

lemma splitAt_append (h : sep ∉ p) (t : List Char) : splitAt sep (p ++ sep :: t) = p :: splitAt sep t := by
  induction p with
  | nil => exact if_pos rfl
  | cons c p ih =>
    rw [List.mem_cons, not_or] at h
    rw [List.cons_append, splitAt, if_neg (Ne.symm h.1), ih h.2]

lemma splitAt_eq_cons (h : splitAt sep s = p :: ps) :
    sep ∉ p ∧ (s = p ∧ ps = [] ∨ ∃ t, s = p ++ sep :: t ∧ splitAt sep t = ps) := by
  by_cases hs : sep ∈ s
  · obtain ⟨front, t, rfl, hfront⟩ := List.eq_append_cons_of_mem hs
    rw [splitAt_append hfront] at h
    obtain ⟨rfl, ht⟩ := List.cons.inj h
    exact ⟨hfront, .inr ⟨t, rfl, ht⟩⟩
  · rw [splitAt_of_not_mem hs] at h
    obtain ⟨rfl, hps⟩ := List.cons.inj h
    exact ⟨hs, .inl ⟨rfl, hps.symm⟩⟩

lemma splitAt_eq_pair_iff : splitAt sep s = [p, q] ↔ s = p ++ sep :: q ∧ sep ∉ p ∧ sep ∉ q := by
  constructor
  · intro h
    obtain ⟨hp, ⟨-, hps⟩ | ⟨t, rfl, ht⟩⟩ := splitAt_eq_cons h
    · cases hps
    · obtain ⟨hq, ⟨rfl, -⟩ | ⟨u, -, hu⟩⟩ := splitAt_eq_cons ht
      · exact ⟨rfl, hp, hq⟩
      · exact absurd hu (splitAt_ne_nil sep u)
  · rintro ⟨rfl, hp, hq⟩
    rw [splitAt_append hp, splitAt_of_not_mem hq]

end Characters

section Words

lemma startsWith_iff : startsWith w s = true ↔ w <+: s := by
  rw [startsWith, Option.isSome_iff_exists]
  exact exists_congr fun r => afterWord_eq_some_iff.trans eq_comm

lemma splitWordAux_skip (w : List Char) (n : ℕ) (acc s : List Char) :
    splitWordAux w n acc s = splitWordAux w 0 acc (s.drop n) := by
  induction s generalizing n with
  | nil => cases n <;> simp [splitWordAux]
  | cons c s ih =>
    cases n with
    | zero => rfl
    | succ n => rw [splitWordAux, ih, List.drop_succ_cons]

lemma splitWordAux_acc (w acc s : List Char) :
    splitWordAux w 0 acc s = (splitWord w s).modifyHead (acc.reverse ++ ·) := by
  induction s generalizing acc with
  | nil => simp [splitWord, splitWordAux]
  | cons c s ih =>
    rw [splitWord, splitWordAux, splitWordAux]
    cases afterWord w (c :: s) with
    | some t => simp
    | none =>
      simp only
      rw [ih, ih [c], List.modifyHead_modifyHead]
      congr 1
      funext p
      simp

lemma splitWord_ne_nil (w s : List Char) : splitWord w s ≠ [] := by
  induction s with
  | nil => simp [splitWord, splitWordAux]
  | cons c s ih =>
    rw [splitWord, splitWordAux]
    split
    · exact List.cons_ne_nil _ _
    · rw [splitWordAux_acc]
      simpa using ih

lemma splitWord_append (hw : w ≠ []) (t : List Char) : splitWord w (w ++ t) = [] :: splitWord w t := by
  cases w with
  | nil => exact absurd rfl hw
  | cons c w =>
    have hafter : afterWord (c :: w) (c :: (w ++ t)) = some t := afterWord_eq_some_iff.2 rfl
    rw [List.cons_append, splitWord, splitWordAux, hafter]
    simp only [List.reverse_nil, List.length_cons, Nat.add_sub_cancel]
    rw [splitWordAux_skip, List.drop_left, splitWord]

lemma splitWord_cons {c : Char} (h : ¬ w <+: c :: s) :
    splitWord w (c :: s) = (splitWord w s).modifyHead (c :: ·) := by
  have hafter : afterWord w (c :: s) = none := by
    rw [← Option.not_isSome_iff_eq_none]
    exact fun hs => h (startsWith_iff.1 hs)
  rw [splitWord, splitWordAux, hafter]
  simp only
  rw [splitWordAux_acc]
  rfl

lemma splitWord_of_absent (h : ¬ w <:+: s) : splitWord w s = [s] := by
  induction s with
  | nil => rfl
  | cons c s ih =>
    rw [List.infix_cons_iff, not_or] at h
    rw [splitWord_cons h.1, ih h.2]
    rfl

lemma splitWord_append_word (hw : w ≠ []) (h : ¬ w <:+: p ++ w.dropLast) (t : List Char) :
    splitWord w (p ++ w ++ t) = p :: splitWord w t := by
  induction p with
  | nil => exact splitWord_append hw t
  | cons c p ih =>
    rw [List.cons_append, List.infix_cons_iff, not_or] at h
    have hfront : ¬ w <+: c :: (p ++ w ++ t) := by
      intro hp
      refine h.1 (List.prefix_of_prefix_length_le hp ?_ ?_)
      · refine List.cons_prefix_cons.2 ⟨rfl, ?_⟩
        rw [List.append_assoc, List.prefix_append_right_inj]
        exact (List.dropLast_prefix w).trans (List.prefix_append w t)
      · simp only [List.length_cons, List.length_append, List.length_dropLast]
        omega
    rw [List.cons_append, List.cons_append, splitWord_cons hfront, ih h.2]
    rfl

lemma splitWord_eq_cons (hw : w ≠ []) (h : splitWord w s = p :: ps) :
    ¬ w <:+: p ∧ (s = p ∧ ps = [] ∨ ∃ t, s = p ++ w ++ t ∧ splitWord w t = ps) := by
  induction s generalizing p with
  | nil =>
    obtain ⟨rfl, rfl⟩ := List.cons.inj h
    exact ⟨by simpa using hw, .inl ⟨rfl, rfl⟩⟩
  | cons c s ih =>
    by_cases hfront : w <+: c :: s
    · obtain ⟨t, ht⟩ := hfront
      rw [← ht, splitWord_append hw] at h
      obtain ⟨rfl, hps⟩ := List.cons.inj h
      exact ⟨by simpa using hw, .inr ⟨t, ht.symm, hps⟩⟩
    · rw [splitWord_cons hfront] at h
      obtain ⟨p', ps', hs⟩ := List.exists_cons_of_ne_nil (splitWord_ne_nil w s)
      rw [hs] at h
      obtain ⟨rfl, rfl⟩ := List.cons.inj h
      obtain ⟨hp, hrest⟩ := ih hs
      have hcase : s = p' ∧ ps' = [] ∨ ∃ t, s = p' ++ w ++ t ∧ splitWord w t = ps' := hrest
      have hprefix : p' <+: s := by
        rcases hcase with ⟨rfl, -⟩ | ⟨t, rfl, -⟩
        · exact List.prefix_rfl
        · rw [List.append_assoc]
          exact List.prefix_append _ _
      refine ⟨?_, ?_⟩
      · rw [List.infix_cons_iff, not_or]
        exact ⟨fun hin => hfront (hin.trans (List.cons_prefix_cons.2 ⟨rfl, hprefix⟩)), hp⟩
      · rcases hcase with ⟨rfl, rfl⟩ | ⟨t, rfl, ht⟩
        · exact .inl ⟨rfl, rfl⟩
        · exact .inr ⟨t, rfl, ht⟩

lemma no_pair_of_not_mem {a b : Char} (h : a ∉ s) : ¬ [a, b] <:+: s := fun hin => h (hin.subset (by simp))

lemma no_pair_append {a b : Char} (hs : ¬ [a, b] <:+: s) (ht : ¬ [a, b] <:+: t)
    (hborder : a ∉ s ∨ t.head? ≠ some b) : ¬ [a, b] <:+: s ++ t := by
  rw [List.infix_append_iff]
  rintro (hin | hin | ⟨x, y, hxy, hx, hy⟩)
  · exact hs hin
  · exact ht hin
  · match x, y, hxy with
    | [], y, hxy =>
      obtain rfl : y = [a, b] := hxy.symm
      exact ht hy.isInfix
    | [c], y, hxy =>
      obtain ⟨rfl, rfl⟩ : a = c ∧ [b] = y := List.cons.inj hxy
      obtain ⟨rest, rfl⟩ := hy
      exact hborder.elim (fun h => h (hx.subset (by simp))) fun h => h rfl
    | [c, d], y, hxy =>
      have hwhole : [a, b] <+: [c, d] ++ [] ++ y := ⟨[], by simpa using hxy⟩
      rw [List.append_nil] at hwhole
      exact hs ((List.prefix_of_prefix_length_le hwhole (List.prefix_append _ _) le_rfl).isInfix.trans hx.isInfix)
    | _ :: _ :: _ :: _, _, hxy => simp at hxy

end Words

section Trimming

lemma isBlank_head (h : trim s = s) (hs : s ≠ []) : isBlank (s.head hs) = false := by
  cases s with
  | nil => exact absurd rfl hs
  | cons c s =>
    rw [List.head_cons, ← Bool.not_eq_true]
    intro hc
    have hshort : (trim (c :: s)).length ≤ s.length := by
      rw [trim, trimStart, List.dropWhile_cons_of_pos hc, trimEnd, List.length_reverse]
      refine (List.dropWhile_suffix _).length_le.trans ?_
      rw [List.length_reverse]
      exact (List.dropWhile_suffix _).length_le
    rw [h, List.length_cons] at hshort
    omega

lemma trimStart_append (hw : ∀ c ∈ w, isBlank c = true) (s : List Char) : trimStart (w ++ s) = trimStart s := by
  rw [trimStart, List.dropWhile_append_of_pos hw, trimStart]

lemma trimStart_of_head {c : Char} (hc : isBlank c = false) (s : List Char) : trimStart (c :: s) = c :: s :=
  List.dropWhile_cons_of_neg (by simp [hc])

lemma trimEnd_append {c : Char} (hc : isBlank c = false) (s t : List Char) :
    trimEnd (s ++ c :: t) = s ++ c :: trimEnd t := by
  have hne : (t.reverse ++ [c]).dropWhile isBlank = t.reverse.dropWhile isBlank ++ [c] := by
    rw [List.dropWhile_append]
    split
    · next hempty => simp [List.isEmpty_iff.1 hempty, hc]
    · rfl
  have hsplit : (s ++ c :: t).reverse = t.reverse ++ [c] ++ s.reverse := by simp
  rw [trimEnd, hsplit, List.dropWhile_append, hne]
  simp [trimEnd]

lemma trim_between {c d : Char} (hw : ∀ x ∈ w, isBlank x = true) (hc : isBlank c = false) (hd : isBlank d = false)
    (s t : List Char) : trim (w ++ c :: (s ++ d :: t)) = c :: (s ++ d :: trimEnd t) := by
  rw [trim, trimStart_append hw, trimStart_of_head hc, ← List.cons_append, trimEnd_append hd]
  rfl

end Trimming

end ConfigKeeper.Text
