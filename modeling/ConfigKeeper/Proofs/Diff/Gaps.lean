import ConfigKeeper.Proofs.Diff.Alignment

/-!
The gaps of an alignment. The two sides of a gap have no item in common, and no gap touches another
one: some items that are kept stand between them.
-/

namespace ConfigKeeper.Diff

variable {α : Type}

structure IsGap (xs ys : List α) : Prop where
  disjoint : xs.Disjoint ys
  ne_nil : xs ≠ [] ∨ ys ≠ []

inductive Spaced : List (Segment α) → Prop
  | nil : Spaced []
  | kept {xs : List α} {r : List (Segment α)} (hkept : xs ≠ []) (h : Spaced r) : Spaced (.kept xs :: r)
  | last {xs ys : List α} (hgap : IsGap xs ys) : Spaced [.changed xs ys]
  | changed {xs ys zs : List α} {r : List (Segment α)} (hgap : IsGap xs ys) (hkept : zs ≠ []) (h : Spaced r) :
      Spaced (.changed xs ys :: .kept zs :: r)

namespace Spaced

variable {xs ys : List α} {r ss : List (Segment α)}

lemma gap (h : xs.Disjoint ys) : Spaced (gap xs ys) := by
  rw [Diff.gap]
  split
  · exact .nil
  · next hne =>
    refine .last ⟨h, ?_⟩
    by_contra hboth
    rw [not_or, not_not, not_not] at hboth
    simp [hboth.1, hboth.2] at hne

lemma append_kept (h : Spaced ss) (hkept : xs ≠ []) (hr : Spaced r) : Spaced (ss ++ .kept xs :: r) := by
  induction h with
  | nil => exact .kept hkept hr
  | kept hne _ ih => exact .kept hne ih
  | last hgap => exact .changed hgap hkept hr
  | changed hgap hne _ ih => exact .changed hgap hne ih

lemma of_kept (h : Spaced (.kept xs :: r)) : Spaced r := by
  cases h with
  | kept _ h => exact h

lemma joinKept_kept (hkept : xs ≠ []) (h : Spaced (joinKept r)) :
    ∃ zs rest, joinKept (.kept xs :: r) = .kept zs :: rest ∧ zs ≠ [] ∧ Spaced rest := by
  rcases Diff.joinKept_kept xs r with hj | ⟨ys, rest, hr, hj⟩
  · exact ⟨xs, joinKept r, hj, hkept, h⟩
  · rw [hr] at h
    exact ⟨xs ++ ys, rest, hj, by simp [hkept], h.of_kept⟩

protected lemma joinKept (h : Spaced ss) : Spaced (joinKept ss) := by
  induction h with
  | nil => exact .nil
  | kept hkept _ ih =>
    obtain ⟨zs, rest, hj, hzs, hrest⟩ := joinKept_kept hkept ih
    exact hj ▸ .kept hzs hrest
  | last hgap => exact .last hgap
  | changed hgap hkept _ ih =>
    obtain ⟨zs, rest, hj, hzs, hrest⟩ := joinKept_kept hkept ih
    rw [joinKept, hj]
    exact .changed hgap hzs hrest

lemma isGap_of_mem (h : Spaced ss) (hm : .changed xs ys ∈ ss) : IsGap xs ys := by
  induction h with
  | nil => cases hm
  | kept _ _ ih => exact ih (by simpa using hm)
  | last hgap =>
    obtain ⟨rfl, rfl⟩ : xs = _ ∧ ys = _ := by simpa using hm
    exact hgap
  | changed hgap _ _ ih =>
    rcases List.mem_cons.1 hm with he | hm
    · obtain ⟨rfl, rfl⟩ := Segment.changed.inj he
      exact hgap
    · exact ih (by simpa using hm)

end Spaced

section Align

variable [DecidableEq α]

lemma disjoint_of_longest {old new : List α} (h : (longest old new).size = 0) : old.Disjoint new := by
  intro x hold hnew
  obtain ⟨i, hi, rfl⟩ := List.getElem_of_mem hold
  obtain ⟨j, hj, hx⟩ := List.getElem_of_mem hnew
  -- One item that both lists have is a common run by itself.
  have hone : Common old new ⟨i, j, 1⟩ := by
    refine ⟨hi, hj, ?_⟩
    rw [List.take_one_drop_eq_of_lt_length hi, List.take_one_drop_eq_of_lt_length hj]
    exact congrArg (fun y => [y]) hx.symm
  have hsize : 1 ≤ (longest old new).size := size_le_longest hone
  omega

lemma spaced_alignRuns (old new : List α) : Spaced (alignRuns old new) := by
  fun_induction alignRuns old new with
  | case1 old new b hb iht ihd =>
    refine iht.append_kept ?_ ihd
    rw [← List.length_pos_iff, List.length_take, List.length_drop]
    omega
  | case2 old new b hb =>
    have hold : b.old + b.size ≤ old.length := (longest_common old new).inOld
    have hsize : b.size = 0 := by omega
    exact .gap (disjoint_of_longest hsize)

theorem spaced_align (old new : List α) : Spaced (align old new) := (spaced_alignRuns old new).joinKept

end Align

end ConfigKeeper.Diff
