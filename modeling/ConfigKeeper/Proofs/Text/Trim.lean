import ConfigKeeper.Proofs.Text.Split
import Mathlib.Data.List.DropRight

namespace ConfigKeeper.Text

variable {s t front : List Char} {c : Char} {p : Char → Bool}

lemma dropEndWhile_eq (p : Char → Bool) (s : List Char) : dropEndWhile p s = s.rdropWhile p := rfl

lemma trimEnd_eq (s : List Char) : trimEnd s = dropEndWhile isBlank s := rfl

lemma dropEndWhile_dropEndWhile (p : Char → Bool) (s : List Char) :
    dropEndWhile p (dropEndWhile p s) = dropEndWhile p s := List.rdropWhile_idempotent p s

lemma isPrefix_dropEndWhile (p : Char → Bool) (s : List Char) : dropEndWhile p s <+: s := List.rdropWhile_prefix p s

lemma last_dropEndWhile (h : dropEndWhile p s = front ++ [c]) : p c = false := by
  rw [dropEndWhile_eq] at h
  have hlast := List.rdropWhile_last_not p s (by simp [h])
  simpa [h] using hlast

lemma exists_dropped (c : Char) (s : List Char) : ∃ n, s = dropEndWhile (· = c) s ++ List.replicate n c := by
  have hrun : s.rtakeWhile (· = c) = List.replicate (s.rtakeWhile (· = c)).length c :=
    List.eq_replicate_of_mem fun d hd => by simpa using List.mem_rtakeWhile_imp hd
  refine ⟨(s.rtakeWhile (· = c)).length, ?_⟩
  rw [← hrun, dropEndWhile_eq, List.rdropWhile_append_rtakeWhile]

lemma dropEndWhile_append {d : Char} (hd : d ≠ c) (front : List Char) (n : ℕ) :
    dropEndWhile (· = c) (front ++ d :: List.replicate n c) = front ++ [d] := by
  have hrun : ∀ x ∈ List.replicate n c, decide (x = c) = true := by simp +contextual [List.mem_replicate]
  rw [dropEndWhile, List.reverse_append, List.reverse_cons, List.reverse_replicate, List.append_assoc,
    List.dropWhile_append_of_pos hrun]
  simp [hd]

lemma isBlank_of_trimStart (h : trimStart s = c :: t) : isBlank c = false := by
  rw [trimStart] at h
  have hhead := List.head_dropWhile_not isBlank (l := s) (by simp [h])
  simpa [h] using hhead

lemma isBlank_last (h : trim s = front ++ [c]) : isBlank c = false := last_dropEndWhile (s := trimStart s) h

lemma trim_sublist (s : List Char) : (trim s).Sublist s :=
  (isPrefix_dropEndWhile isBlank _).sublist.trans (List.dropWhile_sublist _)

lemma trim_trim (s : List Char) : trim (trim s) = trim s := by
  cases h : trim s with
  | nil => rfl
  | cons c t =>
    obtain ⟨back, hback⟩ := isPrefix_dropEndWhile isBlank (trimStart s)
    have hc : isBlank c = false := isBlank_of_trimStart (hback.symm.trans (congrArg (· ++ back) h))
    rw [trim, trimStart_of_head hc, ← h, trim, trimEnd_eq, trimEnd_eq, dropEndWhile_dropEndWhile]

end ConfigKeeper.Text
