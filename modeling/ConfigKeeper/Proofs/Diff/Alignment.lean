import ConfigKeeper.Diff.Script
import Mathlib.Tactic

/-!
The block that an alignment keeps stands in both lists and is as long as any such block. So an
alignment spells both lists, and it keeps everything if the lists are the same.
-/

namespace ConfigKeeper.Diff

variable {α : Type}

structure Common (old new : List α) (b : Block) : Prop where
  inOld : b.old + b.size ≤ old.length
  inNew : b.new + b.size ≤ new.length
  same : (old.drop b.old).take b.size = (new.drop b.new).take b.size

lemma common_none (old new : List α) : Common old new ⟨0, 0, 0⟩ :=
  ⟨Nat.zero_le _, Nat.zero_le _, by simp⟩

section Longest

variable [DecidableEq α]

def sharedFront : List α → List α → Nat
  | x :: xs, y :: ys => if x = y then sharedFront xs ys + 1 else 0
  | _, _ => 0

lemma sharedFront_le_left (xs ys : List α) : sharedFront xs ys ≤ xs.length := by
  fun_induction sharedFront xs ys <;> simp_all

lemma sharedFront_le_right (xs ys : List α) : sharedFront xs ys ≤ ys.length := by
  fun_induction sharedFront xs ys <;> simp_all

lemma take_sharedFront (xs ys : List α) :
    xs.take (sharedFront xs ys) = ys.take (sharedFront xs ys) := by
  fun_induction sharedFront xs ys <;> simp_all

lemma le_sharedFront {xs ys : List α} {n : Nat} (hx : n ≤ xs.length) (hy : n ≤ ys.length)
    (h : xs.take n = ys.take n) : n ≤ sharedFront xs ys := by
  induction n generalizing xs ys with
  | zero => exact Nat.zero_le _
  | succ n ih =>
    obtain ⟨x, xs, rfl⟩ := List.exists_cons_of_length_pos (by omega : 0 < xs.length)
    obtain ⟨y, ys, rfl⟩ := List.exists_cons_of_length_pos (by omega : 0 < ys.length)
    simp only [List.take_succ_cons, List.cons.injEq, List.length_cons] at h hx hy
    rw [sharedFront, if_pos h.1]
    exact Nat.succ_le_succ (ih (by omega) (by omega) h.2)

def rowOf (read new : List α) : List Nat :=
  (List.range new.length).map fun j => sharedFront read (new.take (j + 1)).reverse

lemma rowOf_nil (new : List α) : rowOf [] new = new.map fun _ => 0 := by
  refine List.ext_getElem (by simp [rowOf]) fun j h₁ h₂ => ?_
  simp [rowOf, sharedFront]

omit [DecidableEq α] in
lemma reverse_take_succ (new : List α) {j : Nat} (h : j < new.length) :
    (new.take (j + 1)).reverse = new[j] :: (new.take j).reverse := by
  rw [List.take_succ_eq_append_getElem h, List.reverse_append]
  rfl

lemma runLengths_rowOf (x : α) (read new : List α) :
    runLengths x new (rowOf read new) = rowOf (x :: read) new := by
  refine List.ext_getElem (by simp [runLengths, rowOf]) fun j h₁ h₂ => ?_
  have hj : j < new.length := by simpa [rowOf] using h₂
  have hl : j < (0 :: rowOf read new).length := by simp [rowOf]; omega
  have hn : (0 :: rowOf read new)[j] = sharedFront read (new.take j).reverse := by
    cases j with
    | zero => cases read <;> simp [sharedFront]
    | succ j => simp [rowOf]
  rw [show (rowOf (x :: read) new)[j] = sharedFront (x :: read) (new.take (j + 1)).reverse by
    simp [rowOf], reverse_take_succ new hj, sharedFront]
  simp only [runLengths, List.getElem_zipWith, hn]

lemma longerIn_cases (i j : Nat) (ns : List Nat) (best : Block) :
    longerIn i j ns best = best ∨
      ∃ (m : Nat) (h : m < ns.length), longerIn i j ns best = ⟨i + 1 - ns[m], j + m + 1 - ns[m], ns[m]⟩ := by
  induction ns generalizing j best with
  | nil => exact .inl rfl
  | cons n ns ih =>
    rw [longerIn]
    rcases ih (j + 1) (if best.size < n then ⟨i + 1 - n, j + 1 - n, n⟩ else best) with h | ⟨m, hm, h⟩
    · by_cases hn : best.size < n
      · rw [if_pos hn] at h ⊢
        exact .inr ⟨0, by simp, h⟩
      · rw [if_neg hn] at h ⊢
        exact .inl h
    · refine .inr ⟨m + 1, by simpa using hm, ?_⟩
      rw [h]
      simp only [List.getElem_cons_succ, Block.mk.injEq, and_true, true_and]
      omega

lemma size_le_longerIn (i j : Nat) (ns : List Nat) (best : Block) :
    best.size ≤ (longerIn i j ns best).size ∧ ∀ n ∈ ns, n ≤ (longerIn i j ns best).size := by
  induction ns generalizing j best with
  | nil => simp [longerIn]
  | cons n ns ih =>
    rw [longerIn]
    obtain ⟨hb, hns⟩ := ih (j + 1) (if best.size < n then ⟨i + 1 - n, j + 1 - n, n⟩ else best)
    have hmax : best.size ≤ (if best.size < n then (⟨i + 1 - n, j + 1 - n, n⟩ : Block) else best).size ∧
        n ≤ (if best.size < n then (⟨i + 1 - n, j + 1 - n, n⟩ : Block) else best).size := by
      split <;> simp <;> omega
    refine ⟨hmax.1.trans hb, ?_⟩
    rintro k hk
    rcases List.mem_cons.1 hk with rfl | hk
    · exact hmax.2.trans hb
    · exact hns k hk

lemma common_of_sharedFront {old new read rest : List α} {j : Nat} (ho : old = read.reverse ++ rest)
    (hj : j < new.length) :
    let n := sharedFront read (new.take (j + 1)).reverse
    Common old new ⟨read.length - n, j + 1 - n, n⟩ := by
  intro n
  have hl : n ≤ read.length := sharedFront_le_left _ _
  have hr : n ≤ (new.take (j + 1)).length := by
    simpa using sharedFront_le_right read (new.take (j + 1)).reverse
  have ht : (new.take (j + 1)).length = j + 1 := by simp; omega
  have hs : (read.take n).reverse = ((new.take (j + 1)).reverse.take n).reverse :=
    congrArg List.reverse (take_sharedFront read (new.take (j + 1)).reverse)
  refine ⟨?_, ?_, ?_⟩
  · simp only [ho, List.length_append, List.length_reverse]
    omega
  · simp only
    omega
  · rw [List.take_reverse, List.reverse_reverse, ht, List.drop_take] at hs
    simp only [ho]
    rw [List.drop_append_of_le_length (by simp), List.take_append_of_le_length (by simp; omega)]
    rw [List.drop_reverse, Nat.sub_sub_self hl, List.take_of_length_le (by simp), hs]
    congr 1
    omega

lemma longestFrom_common {old new : List α} (rest read : List α) (best : Block)
    (ho : old = read.reverse ++ rest) (hb : Common old new best) :
    Common old new (longestFrom new read.length rest (rowOf read new) best) := by
  induction rest generalizing read best with
  | nil => exact hb
  | cons x xs ih =>
    rw [longestFrom, runLengths_rowOf]
    have ho' : old = (x :: read).reverse ++ xs := by simp [ho]
    apply ih (x :: read) _ ho'
    rcases longerIn_cases read.length 0 (rowOf (x :: read) new) best with h | ⟨m, hm, h⟩
    · rwa [h]
    · have hj : m < new.length := by simpa [rowOf] using hm
      rw [h]
      simpa [rowOf] using common_of_sharedFront ho' hj

lemma size_le_longestFrom (new rest read : List α) (best : Block) :
    best.size ≤ (longestFrom new read.length rest (rowOf read new) best).size := by
  induction rest generalizing read best with
  | nil => exact Nat.le_refl _
  | cons x xs ih =>
    rw [longestFrom, runLengths_rowOf]
    exact (size_le_longerIn _ _ _ _).1.trans (ih (x :: read) _)

lemma sharedFront_le_longestFrom (new rest read : List α) (best : Block) {k j : Nat}
    (hk : k < rest.length) (hj : j < new.length) :
    sharedFront ((rest.take (k + 1)).reverse ++ read) (new.take (j + 1)).reverse ≤
      (longestFrom new read.length rest (rowOf read new) best).size := by
  induction rest generalizing read best k with
  | nil => simp at hk
  | cons x xs ih =>
    rw [longestFrom, runLengths_rowOf]
    cases k with
    | zero =>
      have hm : sharedFront (x :: read) (new.take (j + 1)).reverse ∈ rowOf (x :: read) new :=
        List.mem_map.2 ⟨j, List.mem_range.2 hj, rfl⟩
      have hs := (size_le_longerIn read.length 0 (rowOf (x :: read) new) best).2 _ hm
      exact hs.trans (size_le_longestFrom new xs (x :: read) _)
    | succ k =>
      simpa using ih (x :: read) (longerIn read.length 0 (rowOf (x :: read) new) best)
        (by simpa using hk)

theorem longest_common (old new : List α) : Common old new (longest old new) := by
  rw [longest, ← rowOf_nil]
  exact longestFrom_common old [] _ rfl (common_none old new)

theorem size_le_longest {old new : List α} {b : Block} (h : Common old new b) :
    b.size ≤ (longest old new).size := by
  by_cases hz : b.size = 0
  · omega
  have ho := h.inOld
  have hn := h.inNew
  obtain ⟨k, hk⟩ : ∃ k, b.old + b.size = k + 1 := ⟨b.old + b.size - 1, by omega⟩
  obtain ⟨j, hj⟩ : ∃ j, b.new + b.size = j + 1 := ⟨b.new + b.size - 1, by omega⟩
  have hs : b.size ≤ sharedFront (old.take (k + 1)).reverse (new.take (j + 1)).reverse := by
    refine le_sharedFront (by simp; omega) (by simp; omega) ?_
    have hk' : min (k + 1) old.length - b.size = b.old := by omega
    have hj' : min (j + 1) new.length - b.size = b.new := by omega
    have hsame := congrArg List.reverse h.same
    rw [List.take_reverse, List.take_reverse, List.length_take, List.length_take, hk', hj', List.drop_take,
      List.drop_take, show k + 1 - b.old = b.size by omega, show j + 1 - b.new = b.size by omega]
    exact hsame
  have hf := sharedFront_le_longestFrom new old [] ⟨0, 0, 0⟩ (k := k) (j := j) (by omega) (by omega)
  rw [List.append_nil, rowOf_nil] at hf
  exact hs.trans hf

lemma longest_self (xs : List α) : longest xs xs = ⟨0, 0, xs.length⟩ := by
  have hc := longest_common xs xs
  have hs : xs.length ≤ (longest xs xs).size :=
    size_le_longest (b := ⟨0, 0, xs.length⟩) ⟨by simp, by simp, rfl⟩
  have ho := hc.inOld
  have hn := hc.inNew
  cases hb : longest xs xs with
  | mk old new size =>
    simp only [hb] at hs ho hn
    simp only [Block.mk.injEq]
    omega

end Longest

lemma oldOf_append (xs ys : List (Segment α)) : oldOf (xs ++ ys) = oldOf xs ++ oldOf ys :=
  List.flatMap_append

lemma newOf_append (xs ys : List (Segment α)) : newOf (xs ++ ys) = newOf xs ++ newOf ys :=
  List.flatMap_append

lemma oldOf_cons (s : Segment α) (r : List (Segment α)) : oldOf (s :: r) = s.old ++ oldOf r :=
  List.flatMap_cons

lemma newOf_cons (s : Segment α) (r : List (Segment α)) : newOf (s :: r) = s.new ++ newOf r :=
  List.flatMap_cons

lemma oldOf_gap (old new : List α) : oldOf (gap old new) = old := by
  rw [gap]
  split
  · next h =>
    simp only [Bool.and_eq_true, List.isEmpty_iff] at h
    simp [oldOf, h.1]
  · simp [oldOf, Segment.old]

lemma newOf_gap (old new : List α) : newOf (gap old new) = new := by
  rw [gap]
  split
  · next h =>
    simp only [Bool.and_eq_true, List.isEmpty_iff] at h
    simp [newOf, h.2]
  · simp [newOf, Segment.new]

lemma take_stretch_drop (xs : List α) (i n : Nat) :
    xs.take i ++ ((xs.drop i).take n ++ xs.drop (i + n)) = xs := by
  rw [← List.drop_drop, List.take_append_drop, List.take_append_drop]

lemma joinKept_kept (xs : List α) (r : List (Segment α)) :
    joinKept (.kept xs :: r) = .kept xs :: joinKept r ∨
      ∃ ys rest, joinKept r = .kept ys :: rest ∧ joinKept (.kept xs :: r) = .kept (xs ++ ys) :: rest := by
  rw [joinKept]
  split
  · next ys rest h => exact .inr ⟨ys, rest, h, rfl⟩
  · exact .inl rfl

lemma flatMap_joinKept {β : Type} (f : Segment α → List β)
    (hf : ∀ xs ys, f (.kept (xs ++ ys)) = f (.kept xs) ++ f (.kept ys)) (ss : List (Segment α)) :
    (joinKept ss).flatMap f = ss.flatMap f := by
  induction ss with
  | nil => rfl
  | cons s r ih =>
    cases s with
    | changed xs ys => rw [joinKept, List.flatMap_cons, List.flatMap_cons, ih]
    | kept xs =>
      rcases joinKept_kept xs r with h | ⟨ys, rest, hr, h⟩
      · rw [h, List.flatMap_cons, List.flatMap_cons, ih]
      · rw [h, List.flatMap_cons, List.flatMap_cons, ← ih, hr, List.flatMap_cons, hf, List.append_assoc]

lemma any_isChanged_joinKept (ss : List (Segment α)) :
    (joinKept ss).any Segment.isChanged = ss.any Segment.isChanged := by
  induction ss with
  | nil => rfl
  | cons s r ih =>
    cases s with
    | changed xs ys => simp [joinKept, Segment.isChanged]
    | kept xs =>
      rw [List.any_cons, ← ih]
      rcases joinKept_kept xs r with h | ⟨ys, rest, hr, h⟩
      · rw [h, List.any_cons]
      · rw [h, hr]
        rfl

lemma oldOf_eq_newOf {ss : List (Segment α)} (h : ss.any Segment.isChanged = false) : oldOf ss = newOf ss := by
  induction ss with
  | nil => rfl
  | cons s r ih =>
    rw [List.any_cons, Bool.or_eq_false_iff] at h
    cases s with
    | changed xs ys => exact absurd h.1 Bool.noConfusion
    | kept xs => exact congrArg (xs ++ ·) (ih h.2)

section Align

variable [DecidableEq α]

lemma oldOf_alignRuns (old new : List α) : oldOf (alignRuns old new) = old := by
  fun_induction alignRuns old new with
  | case1 old new b hb iht ihd =>
    rw [oldOf_append, oldOf_cons, iht, ihd]
    exact take_stretch_drop old b.old b.size
  | case2 old new b hb => exact oldOf_gap old new

lemma newOf_alignRuns (old new : List α) : newOf (alignRuns old new) = new := by
  fun_induction alignRuns old new with
  | case1 old new b hb iht ihd =>
    have hs := (longest_common old new).same
    rw [newOf_append, newOf_cons, iht, ihd, Segment.new, hs]
    exact take_stretch_drop new b.new b.size
  | case2 old new b hb => exact newOf_gap old new

theorem oldOf_align (old new : List α) : oldOf (align old new) = old := by
  rw [align, oldOf, flatMap_joinKept _ (fun _ _ => rfl)]
  exact oldOf_alignRuns old new

theorem newOf_align (old new : List α) : newOf (align old new) = new := by
  rw [align, newOf, flatMap_joinKept _ (fun _ _ => rfl)]
  exact newOf_alignRuns old new

lemma alignRuns_self (xs : List α) : (alignRuns xs xs).any Segment.isChanged = false := by
  rw [alignRuns, longest_self]
  have hn : (alignRuns ([] : List α) []).any Segment.isChanged = false := by
    rw [alignRuns, longest_self]
    rfl
  by_cases h : xs = []
  · subst h
    rfl
  · have hp : 0 < xs.length ∧ 0 + xs.length ≤ xs.length := ⟨List.length_pos_iff.2 h, by omega⟩
    rw [dif_pos hp]
    simp [hn, Segment.isChanged]

theorem align_any_isChanged_iff (old new : List α) :
    (align old new).any Segment.isChanged = true ↔ old ≠ new := by
  constructor
  · rintro h rfl
    rw [align, any_isChanged_joinKept, alignRuns_self] at h
    exact Bool.noConfusion h
  · intro hne
    by_contra h
    rw [Bool.not_eq_true] at h
    apply hne
    rw [← oldOf_align old new, oldOf_eq_newOf h, newOf_align]

end Align

end ConfigKeeper.Diff
