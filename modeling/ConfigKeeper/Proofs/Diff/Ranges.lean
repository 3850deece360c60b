import ConfigKeeper.Diff.Ranges
import Mathlib.Tactic

namespace ConfigKeeper.Diff

variable {r s : Range} {rs ss : List Range} {n : ℤ}

/-- One of the half-open ranges holds the integer. An empty or reversed range holds none. -/
def Covered (rs : List Range) (n : ℤ) : Prop := ∃ r ∈ rs, r.1 ≤ n ∧ n < r.2

structure Canonical (rs : List Range) : Prop where
  nonempty : ∀ r ∈ rs, r.1 < r.2
  apart : rs.Pairwise fun r s => r.2 < s.1

section Covering

lemma covered_nil (n : ℤ) : ¬ Covered [] n := by simp [Covered]

lemma covered_cons : Covered (r :: rs) n ↔ (r.1 ≤ n ∧ n < r.2) ∨ Covered rs n := by
  simp [Covered]

lemma covered_filter (rs : List Range) (n : ℤ) : Covered (rs.filter fun r => r.1 < r.2) n ↔ Covered rs n := by
  constructor
  · rintro ⟨r, hr, hn⟩
    exact ⟨r, (List.mem_filter.1 hr).1, hn⟩
  · rintro ⟨r, hr, hstart, hstop⟩
    exact ⟨r, List.mem_filter.2 ⟨hr, decide_eq_true (hstart.trans_lt hstop)⟩, hstart, hstop⟩

lemma covered_perm (h : rs.Perm ss) (n : ℤ) : Covered rs n ↔ Covered ss n := by
  simp only [Covered, h.mem_iff]

lemma covered_joined (hstart : r.1 ≤ s.1) (htouch : s.1 ≤ r.2) :
    Covered ((r.1, max r.2 s.2) :: rs) n ↔ Covered (r :: s :: rs) n := by
  simp only [covered_cons, ← or_assoc]
  refine or_congr_left ?_
  rw [lt_max_iff]
  constructor
  · rintro ⟨hn, hstop | hstop⟩
    · exact .inl ⟨hn, hstop⟩
    · rcases lt_or_ge n r.2 with hin | hout
      · exact .inl ⟨hn, hin⟩
      · exact .inr ⟨htouch.trans hout, hstop⟩
  · rintro (⟨hn, hstop⟩ | ⟨hn, hstop⟩)
    · exact ⟨hn, .inl hstop⟩
    · exact ⟨hstart.trans hn, .inr hstop⟩

end Covering

section Merging

def Ascending (rs : List Range) : Prop := rs.Pairwise fun r s => r.1 ≤ s.1

lemma Ascending.joined (h : Ascending (r :: s :: rs)) (stop : ℤ) : Ascending ((r.1, stop) :: rs) := by
  obtain ⟨hr, hrest⟩ := List.pairwise_cons.1 h
  exact List.pairwise_cons.2 ⟨fun q hq => hr q (List.mem_cons_of_mem _ hq), hrest.of_cons⟩

lemma covered_coalesce (h : Ascending (r :: rs)) (n : ℤ) : Covered (coalesce r rs) n ↔ Covered (r :: rs) n := by
  fun_induction coalesce r rs with
  | case1 r => exact Iff.rfl
  | case2 r s rest htouch ih =>
    rw [ih (h.joined _), covered_joined (List.rel_of_pairwise_cons h List.mem_cons_self) htouch]
  | case3 r s rest _ ih => rw [covered_cons, ih h.of_cons, ← covered_cons]

lemma start_le_of_mem_coalesce (h : Ascending (r :: rs)) (hs : s ∈ coalesce r rs) : r.1 ≤ s.1 := by
  fun_induction coalesce r rs with
  | case1 r => rw [List.mem_singleton.1 hs]
  | case2 r s' rest _ ih => exact ih (h.joined _) hs
  | case3 r s' rest _ ih =>
    rcases List.mem_cons.1 hs with rfl | hs
    · exact le_rfl
    · exact (List.rel_of_pairwise_cons h List.mem_cons_self).trans (ih h.of_cons hs)

lemma canonical_coalesce (h : Ascending (r :: rs)) (hne : ∀ s ∈ r :: rs, s.1 < s.2) :
    Canonical (coalesce r rs) := by
  fun_induction coalesce r rs with
  | case1 r => exact ⟨hne, List.pairwise_singleton _ _⟩
  | case2 r s rest _ ih =>
    obtain ⟨hr, -, hrest⟩ := by simpa only [List.forall_mem_cons] using hne
    exact ih (h.joined _) (List.forall_mem_cons.2 ⟨hr.trans_le (le_max_left _ _), hrest⟩)
  | case3 r s rest hgap ih =>
    obtain ⟨hr, hrest⟩ := List.forall_mem_cons.1 hne
    have hcanonical := ih h.of_cons hrest
    refine ⟨List.forall_mem_cons.2 ⟨hr, hcanonical.nonempty⟩, List.pairwise_cons.2 ⟨fun q hq => ?_, hcanonical.apart⟩⟩
    -- what comes of the rest starts where the rest starts, behind the gap
    exact (not_le.1 hgap).trans_le (start_le_of_mem_coalesce h.of_cons hq)

lemma le_iff : Range.le r s = true ↔ r.1 < s.1 ∨ r.1 = s.1 ∧ r.2 ≤ s.2 := by
  simp [Range.le]

lemma ascending_mergeSort (rs : List Range) : Ascending (rs.mergeSort Range.le) := by
  have htrans : ∀ p q r : Range, p.le q = true → q.le r = true → p.le r = true := by
    intro p q r hpq hqr
    rw [le_iff] at hpq hqr ⊢
    omega
  have htotal : ∀ p q : Range, (p.le q || q.le p) = true := by
    intro p q
    rw [Bool.or_eq_true, le_iff, le_iff]
    omega
  refine (List.pairwise_mergeSort htrans htotal rs).imp fun {r s} h => ?_
  rw [le_iff] at h
  omega

lemma covered_mergeSort (rs : List Range) (n : ℤ) :
    Covered ((rs.filter fun r => r.1 < r.2).mergeSort Range.le) n ↔ Covered rs n :=
  (covered_perm (List.mergeSort_perm _ _) n).trans (covered_filter rs n)

lemma covered_mergeRanges (rs : List Range) (n : ℤ) : Covered (mergeRanges rs) n ↔ Covered rs n := by
  have hascending := ascending_mergeSort (rs.filter fun r => r.1 < r.2)
  rw [← covered_mergeSort rs, mergeRanges]
  cases hsorted : (rs.filter fun r => r.1 < r.2).mergeSort Range.le with
  | nil => exact Iff.rfl
  | cons r rest => exact covered_coalesce (hsorted ▸ hascending) n

lemma canonical_mergeRanges (rs : List Range) : Canonical (mergeRanges rs) := by
  have hascending := ascending_mergeSort (rs.filter fun r => r.1 < r.2)
  have hne : ∀ s ∈ (rs.filter fun r => r.1 < r.2).mergeSort Range.le, s.1 < s.2 := by
    intro s hs
    rw [List.mem_mergeSort, List.mem_filter] at hs
    exact of_decide_eq_true hs.2
  rw [mergeRanges]
  cases hsorted : (rs.filter fun r => r.1 < r.2).mergeSort Range.le with
  | nil => exact ⟨by simp, .nil⟩
  | cons r rest => exact canonical_coalesce (hsorted ▸ hascending) (hsorted ▸ hne)

end Merging

section Uniqueness

lemma Canonical.tail (h : Canonical (r :: rs)) : Canonical rs :=
  ⟨(List.forall_mem_cons.1 h.nonempty).2, h.apart.of_cons⟩

lemma Canonical.lt_of_covered (h : Canonical (r :: rs)) (hn : Covered rs n) : r.2 < n := by
  obtain ⟨s, hs, hstart, -⟩ := hn
  exact (List.rel_of_pairwise_cons h.apart hs).trans_le hstart

lemma Canonical.start_le (h : Canonical (r :: rs)) (hn : Covered (r :: rs) n) : r.1 ≤ n := by
  rcases covered_cons.1 hn with ⟨hstart, -⟩ | hrest
  · exact hstart
  · exact ((h.nonempty r List.mem_cons_self).trans (h.lt_of_covered hrest)).le

lemma Canonical.start_covered (h : Canonical (r :: rs)) : Covered (r :: rs) r.1 :=
  ⟨r, List.mem_cons_self, le_rfl, h.nonempty r List.mem_cons_self⟩

lemma Canonical.stop_not_covered (h : Canonical (r :: rs)) : ¬ Covered (r :: rs) r.2 := by
  rw [covered_cons]
  rintro (⟨-, hlt⟩ | hrest)
  · exact lt_irrefl _ hlt
  · exact lt_irrefl _ (h.lt_of_covered hrest)

lemma Canonical.covered_tail_iff (h : Canonical (r :: rs)) : Covered rs n ↔ Covered (r :: rs) n ∧ r.2 < n := by
  constructor
  · exact fun hn => ⟨covered_cons.2 (.inr hn), h.lt_of_covered hn⟩
  · rintro ⟨hn, hlt⟩
    exact (covered_cons.1 hn).resolve_left fun hin => absurd hin.2 hlt.not_gt

lemma Canonical.stop_le (hr : Canonical (r :: rs)) (hstart : r.1 = s.1)
    (h : ∀ n, Covered (r :: rs) n ↔ Covered (s :: ss) n) : s.2 ≤ r.2 := by
  by_contra hlt
  have hin : s.1 ≤ r.2 := hstart ▸ (hr.nonempty r List.mem_cons_self).le
  exact hr.stop_not_covered ((h r.2).2 ⟨s, List.mem_cons_self, hin, not_le.1 hlt⟩)

lemma Canonical.eq_of_covered (hr : Canonical rs) (hs : Canonical ss) (h : ∀ n, Covered rs n ↔ Covered ss n) :
    rs = ss := by
  induction rs generalizing ss with
  | nil =>
    cases ss with
    | nil => rfl
    | cons s ss => exact absurd ((h s.1).2 hs.start_covered) (covered_nil _)
  | cons r rs ih =>
    cases ss with
    | nil => exact absurd ((h r.1).1 hr.start_covered) (covered_nil _)
    | cons s ss =>
      have hstart : r.1 = s.1 :=
        le_antisymm (hr.start_le ((h s.1).2 hs.start_covered)) (hs.start_le ((h r.1).1 hr.start_covered))
      have hstop : r.2 = s.2 :=
        le_antisymm (hs.stop_le hstart.symm fun n => (h n).symm) (hr.stop_le hstart h)
      have hrest : rs = ss := ih hr.tail hs.tail fun n => by
        rw [hr.covered_tail_iff, hs.covered_tail_iff, h, hstop]
      rw [Prod.ext hstart hstop, hrest]

end Uniqueness

/-- Merging gives the only canonical ranges that cover what the given ones cover, so its result depends on
nothing else, and merging it again changes nothing. -/
theorem mergeRanges_canonical (rs : List Range) :
    (∀ n, Covered (mergeRanges rs) n ↔ Covered rs n) ∧ Canonical (mergeRanges rs) ∧
      (∀ ss, mergeRanges ss = mergeRanges rs ↔ ∀ n, Covered ss n ↔ Covered rs n) ∧
      mergeRanges (mergeRanges rs) = mergeRanges rs := by
  -- a canonical list is told by the integers that it covers
  have hsame : ∀ ss, (∀ n, Covered ss n ↔ Covered rs n) → mergeRanges ss = mergeRanges rs := by
    intro ss h
    refine (canonical_mergeRanges ss).eq_of_covered (canonical_mergeRanges rs) fun n => ?_
    rw [covered_mergeRanges, covered_mergeRanges, h]
  refine ⟨covered_mergeRanges rs, canonical_mergeRanges rs, fun ss => ⟨fun h n => ?_, hsame ss⟩,
    hsame _ (covered_mergeRanges rs)⟩
  rw [← covered_mergeRanges ss, h, covered_mergeRanges]

example : mergeRanges [(4, 6), (7, 3), (0, 2), (2, 3), (5, 9)] = [(0, 3), (4, 9)] := by cbv

end ConfigKeeper.Diff
