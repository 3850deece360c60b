import ConfigKeeper.Proofs.Diff.Gaps
import ConfigKeeper.Proofs.Diff.Script

/-!
The hunks of two texts are the maximal runs of lines of their script that are near a change. They
are found stretch by stretch: removed and inserted lines stand between unchanged ones, and only
unchanged lines are cut.
-/

namespace ConfigKeeper.Diff

structure Span where
  start : Nat
  stop : Nat

namespace Span

def Has (s : Span) (i : Nat) : Prop := s.start ≤ i ∧ i < s.stop

def slice (s : Span) (lines : List Line) : List Line := (lines.take s.stop).drop s.start

def shift (offset : Nat) (s : Span) : Span := ⟨offset + s.start, offset + s.stop⟩

lemma slice_shift (offset : Nat) (s : Span) (lines : List Line) :
    (s.shift offset).slice lines = s.slice (lines.drop offset) := by
  rw [slice, slice, shift, List.drop_take, List.drop_take, List.drop_drop, Nat.add_sub_add_left]

lemma slice_front (xs ys : List Line) : (⟨0, xs.length⟩ : Span).slice (xs ++ ys) = xs := by
  simp [slice]

end Span

structure MaximalRun (p : Nat → Prop) (s : Span) : Prop where
  nonempty : s.start < s.stop
  holds : ∀ i, s.Has i → p i
  before : ∀ i, i + 1 = s.start → ¬ p i
  after : ¬ p s.stop

/-- Spans in order that hold the positions of a property, with a gap after each. -/
structure Splits (p : Nat → Prop) (spans : List Span) : Prop where
  nonempty : ∀ s ∈ spans, s.start < s.stop
  holds : ∀ s ∈ spans, ∀ i, s.Has i → p i
  covers : ∀ i, p i → ∃ s ∈ spans, s.Has i
  apart : spans.Pairwise fun s t => s.stop < t.start

namespace Splits

variable {p q : Nat → Prop} {spans : List Span}

lemma nil (h : ∀ i, ¬ p i) : Splits p [] :=
  ⟨by simp, by simp, fun i hi => absurd hi (h i), List.Pairwise.nil⟩

lemma congr (h : Splits q spans) (hpq : ∀ i, p i ↔ q i) : Splits p spans := by
  obtain rfl : p = q := funext fun i => propext (hpq i)
  exact h

lemma shift (h : Splits p spans) (offset : Nat) :
    Splits (fun i => offset ≤ i ∧ p (i - offset)) (spans.map (Span.shift offset)) := by
  refine ⟨?_, ?_, ?_, ?_⟩
  · simpa [Span.shift] using h.nonempty
  · rintro s hs i ⟨hi, hi'⟩
    obtain ⟨r, hr, rfl⟩ := List.mem_map.1 hs
    simp only [Span.shift] at hi hi'
    exact ⟨by omega, h.holds r hr _ ⟨by omega, by omega⟩⟩
  · rintro i ⟨hi, hp⟩
    obtain ⟨s, hs, hi₁, hi₂⟩ := h.covers _ hp
    exact ⟨s.shift offset, List.mem_map_of_mem hs, by simp only [Span.shift]; omega,
      by simp only [Span.shift]; omega⟩
  · rw [List.pairwise_map]
    refine h.apart.imp fun {s t} hst => ?_
    simp only [Span.shift]
    omega

lemma cons (h : Splits q spans) {s : Span} (hs : s.start < s.stop) (hgap : ∀ t ∈ spans, s.stop < t.start)
    (hp : ∀ i, p i ↔ s.Has i ∨ q i) : Splits p (s :: spans) := by
  refine ⟨?_, ?_, ?_, List.pairwise_cons.2 ⟨hgap, h.apart⟩⟩
  · simpa using ⟨hs, h.nonempty⟩
  · rintro t ht i hi
    rcases List.mem_cons.1 ht with rfl | ht
    · exact (hp i).2 (.inl hi)
    · exact (hp i).2 (.inr (h.holds t ht i hi))
  · intro i hi
    rcases (hp i).1 hi with hi | hi
    · exact ⟨s, List.mem_cons_self, hi⟩
    · obtain ⟨t, ht, hti⟩ := h.covers i hi
      exact ⟨t, List.mem_cons_of_mem s ht, hti⟩

lemma single {s : Span} (hs : s.start < s.stop) (hp : ∀ i, p i ↔ s.Has i) : Splits p [s] :=
  cons (q := fun _ => False) (nil fun _ => id) hs (by simp) (by simpa using hp)

lemma eq_of_has (h : Splits p spans) {s t : Span} (hs : s ∈ spans) (ht : t ∈ spans) {i : Nat}
    (hi : s.start ≤ i + 1 ∧ i ≤ s.stop) (hti : t.Has i) : s = t := by
  obtain ⟨a, ha, rfl⟩ := List.getElem_of_mem hs
  obtain ⟨b, hb, rfl⟩ := List.getElem_of_mem ht
  obtain ⟨h₁, h₂⟩ := hti
  have hapart := List.pairwise_iff_getElem.1 h.apart
  rcases Nat.lt_trichotomy a b with hab | rfl | hab
  · have := hapart a b ha hb hab
    omega
  · rfl
  · have := hapart b a hb ha hab
    omega

lemma maximal (h : Splits p spans) {s : Span} (hs : s ∈ spans) : MaximalRun p s := by
  refine ⟨h.nonempty s hs, h.holds s hs, fun i hi hp => ?_, fun hp => ?_⟩
  · obtain ⟨t, ht, hti⟩ := h.covers i hp
    obtain rfl := h.eq_of_has hs ht ⟨by omega, by have := h.nonempty s hs; omega⟩ hti
    have := hti.1
    omega
  · obtain ⟨t, ht, hti⟩ := h.covers _ hp
    obtain rfl := h.eq_of_has hs ht ⟨by have := h.nonempty s hs; omega, le_rfl⟩ hti
    exact absurd hti.2 (lt_irrefl _)

lemma mem_iff (h : Splits p spans) (r : Span) : r ∈ spans ↔ MaximalRun p r := by
  refine ⟨h.maximal, fun hr => ?_⟩
  have hlt := hr.nonempty
  obtain ⟨s, hs, hsr⟩ := h.covers r.start (hr.holds _ ⟨le_rfl, hlt⟩)
  have hstart : s.start = r.start := by
    by_contra hne
    have hle := hsr.1
    have hlt := hsr.2
    exact hr.before (r.start - 1) (by omega) (h.holds s hs _ ⟨by omega, by omega⟩)
  have hstop : s.stop = r.stop := by
    have hns := h.nonempty s hs
    rcases Nat.lt_trichotomy s.stop r.stop with hlt | heq | hlt
    · exact absurd (hr.holds s.stop ⟨by omega, hlt⟩) (h.maximal hs).after
    · exact heq
    · exact absurd (h.holds s hs r.stop ⟨by omega, hlt⟩) hr.after
  cases s
  cases r
  simp only at hstart hstop
  rwa [← hstart, ← hstop]

end Splits

section Near

variable {n i j : Nat} {xs ys lines : List Line}

def IsChange (lines : List Line) (i : Nat) : Prop := ∃ l, lines[i]? = some l ∧ l.tag ≠ .equal

/-- At most `n` positions away from a removed or inserted line. -/
def Near (n : Nat) (lines : List Line) (i : Nat) : Prop :=
  i < lines.length ∧ ∃ j, IsChange lines j ∧ i ≤ j + n ∧ j ≤ i + n

lemma IsChange.lt (h : IsChange lines i) : i < lines.length := by
  obtain ⟨l, hl, -⟩ := h
  exact (List.getElem?_eq_some_iff.1 hl).1

lemma IsChange.near (h : IsChange lines i) (n : Nat) : Near n lines i := ⟨h.lt, i, h, by omega, by omega⟩

lemma isChange_of_all (h : ∀ l ∈ lines, l.tag ≠ .equal) (hi : i < lines.length) : IsChange lines i :=
  ⟨lines[i], List.getElem?_eq_getElem hi, h _ (List.getElem_mem hi)⟩

lemma not_isChange_of_all (h : ∀ l ∈ lines, l.tag = .equal) : ¬ IsChange lines i := by
  rintro ⟨l, hl, hne⟩
  exact hne (h l (List.mem_of_getElem? hl))

lemma isChange_drop : IsChange (lines.drop j) i ↔ IsChange lines (j + i) := by
  simp only [IsChange, List.getElem?_drop]

lemma isChange_append : IsChange (xs ++ ys) i ↔ IsChange xs i ∨ xs.length ≤ i ∧ IsChange ys (i - xs.length) := by
  rcases Nat.lt_or_ge i xs.length with hi | hi
  · have hn : ¬ (xs.length ≤ i ∧ IsChange ys (i - xs.length)) := fun h => by omega
    rw [or_iff_left hn, IsChange, IsChange, List.getElem?_append_left hi]
  · have hn : ¬ IsChange xs i := fun h => by have := h.lt; omega
    rw [or_iff_right hn, and_iff_right hi, IsChange, IsChange, List.getElem?_append_right hi]

lemma Near.append (h : Near n xs i) (ys : List Line) : Near n (xs ++ ys) i := by
  obtain ⟨hi, j, hj, hij⟩ := h
  exact ⟨by rw [List.length_append]; omega, j, isChange_append.2 (.inl hj), hij⟩

lemma near_drop_iff (hfar : ∀ k, k < j → IsChange lines k → k + n < j) :
    (j ≤ i ∧ Near n (lines.drop j) (i - j)) ↔ j ≤ i ∧ Near n lines i := by
  refine and_congr_right fun hi => ?_
  constructor
  · rintro ⟨hl, k, hk, h₁, h₂⟩
    rw [List.length_drop] at hl
    exact ⟨by omega, j + k, isChange_drop.1 hk, by omega, by omega⟩
  · rintro ⟨hl, k, hk, h₁, h₂⟩
    have hjk : j ≤ k := by
      by_contra hlt
      have := hfar k (by omega) hk
      omega
    refine ⟨by rw [List.length_drop]; omega, k - j, isChange_drop.2 ?_, by omega, by omega⟩
    rwa [Nat.add_sub_cancel' hjk]

end Near

def Windows (n : Nat) (lines : List Line) (hunks : List (List Line)) : Prop :=
  ∃ spans, hunks = spans.map (·.slice lines) ∧ Splits (Near n lines) spans

namespace Windows

variable {n off : Nat} {hunk lines rest : List Line} {hunks : List (List Line)}

lemma none (h : ∀ i, ¬ IsChange lines i) : Windows n lines [] :=
  ⟨[], rfl, .nil fun _ ⟨_, j, hj, _⟩ => h j hj⟩

lemma front (hpos : 0 < hunk.length) (h : ∀ i, Near n (hunk ++ rest) i ↔ i < hunk.length) :
    Windows n (hunk ++ rest) [hunk] :=
  ⟨[⟨0, hunk.length⟩], by simp [Span.slice_front], .single hpos fun i => by simp [h, Span.Has]⟩

lemma behind (h : Windows n (lines.drop off) hunks) (hfar : ∀ k < off, IsChange lines k → k + n < off)
    (hnear : ∀ i < off, ¬ Near n lines i) : Windows n lines hunks := by
  obtain ⟨spans, rfl, hs⟩ := h
  refine ⟨spans.map (Span.shift off), ?_, (hs.shift off).congr fun i => ?_⟩
  · rw [List.map_map]
    exact List.map_congr_left fun s _ => (Span.slice_shift off s lines).symm
  · rw [near_drop_iff hfar]
    exact ⟨fun hi => ⟨by by_contra hlt; exact hnear i (by omega) hi, hi⟩, And.right⟩

lemma cons (h : Windows n ((hunk ++ rest).drop off) hunks) (hpos : 0 < hunk.length) (hgap : hunk.length < off)
    (hfar : ∀ k < off, IsChange (hunk ++ rest) k → k + n < off)
    (hnear : ∀ i < off, Near n (hunk ++ rest) i ↔ i < hunk.length) :
    Windows n (hunk ++ rest) (hunk :: hunks) := by
  obtain ⟨spans, rfl, hs⟩ := h
  refine ⟨⟨0, hunk.length⟩ :: spans.map (Span.shift off), ?_, (hs.shift off).cons hpos ?_ fun i => ?_⟩
  · rw [List.map_cons, List.map_map, Span.slice_front]
    exact congrArg _ (List.map_congr_left fun s _ => (Span.slice_shift off s _).symm)
  · rintro t ht
    obtain ⟨s, -, rfl⟩ := List.mem_map.1 ht
    simp only [Span.shift]
    omega
  · rw [near_drop_iff hfar, Span.Has]
    rcases Nat.lt_or_ge i off with hi | hi
    · simp [hnear i hi, hi]
    · simp [hi, show ¬ i < hunk.length by omega]

end Windows

inductive Alternating : List Stretch → Prop
  | nil : Alternating []
  | last {ks : List Line} (hk : ∀ l ∈ ks, l.tag = .equal) : Alternating [⟨false, ks⟩]
  | changed {cs : List Line} {ss : List Stretch} (hc : ∀ l ∈ cs, l.tag ≠ .equal) (hne : cs ≠ [])
      (h : Alternating ss) : Alternating (⟨true, cs⟩ :: ss)
  | between {ks cs : List Line} {ss : List Stretch} (hk : ∀ l ∈ ks, l.tag = .equal)
      (hc : ∀ l ∈ cs, l.tag ≠ .equal) (hne : cs ≠ []) (h : Alternating ss) :
      Alternating (⟨false, ks⟩ :: ⟨true, cs⟩ :: ss)

section Cut

variable {n i : Nat} {ss : List Stretch} {hunk ks cs rest : List Line}

lemma isChange_end (hc : ∀ l ∈ cs, l.tag ≠ .equal) (hne : cs ≠ []) (hunk : List Line) :
    IsChange (hunk ++ cs) ((hunk ++ cs).length - 1) := by
  have hpos := List.length_pos_iff.2 hne
  rw [List.length_append]
  exact isChange_append.2 (.inr ⟨by omega, isChange_of_all hc (by omega)⟩)

lemma IsChange.outside (hk : ∀ l ∈ ks, l.tag = .equal) (h : IsChange (hunk ++ (ks ++ rest)) i) :
    i < hunk.length ∨ hunk.length + ks.length ≤ i := by
  rcases isChange_append.1 h with h | ⟨hi, h⟩
  · exact .inl h.lt
  · rcases isChange_append.1 h with h | ⟨hi', -⟩
    · exact absurd h (not_isChange_of_all hk)
    · exact .inr (by omega)

lemma Near.reach (hk : ∀ l ∈ ks, l.tag = .equal) (h : Near n (hunk ++ (ks ++ rest)) i) :
    i < hunk.length + n ∨ hunk.length + ks.length ≤ i + n := by
  obtain ⟨-, j, hj, h₁, h₂⟩ := h
  rcases hj.outside hk with hj | hj
  · exact .inl (by omega)
  · exact .inr (by omega)

lemma near_of_end (hend : IsChange hunk (hunk.length - 1)) (hnear : ∀ i < hunk.length, Near n hunk i)
    (hi : i < hunk.length + n) (hl : i < (hunk ++ rest).length) : Near n (hunk ++ rest) i := by
  by_cases hin : i < hunk.length
  · exact (hnear i hin).append rest
  · have hlt := hend.lt
    exact ⟨hl, hunk.length - 1, isChange_append.2 (.inl hend), by omega, by omega⟩

lemma near_of_begin (hc : ∀ l ∈ cs, l.tag ≠ .equal) (hne : cs ≠ [])
    (hfront : ∀ i, i + n < hunk.length → Near n (hunk ++ cs) i) (hi : i < (hunk ++ cs).length) :
    Near n (hunk ++ cs) i := by
  have hpos := List.length_pos_iff.2 hne
  rw [List.length_append] at hi
  rcases Nat.lt_or_ge i hunk.length with hin | hin
  · by_cases hfar : i + n < hunk.length
    · exact hfront i hfar
    · refine ⟨by rw [List.length_append]; omega, hunk.length, ?_, by omega, by omega⟩
      exact isChange_append.2 (.inr ⟨le_rfl, isChange_of_all hc (by omega)⟩)
  · exact (isChange_append.2 (.inr ⟨hin, isChange_of_all hc (by omega)⟩)).near n

lemma length_lastOf (n : Nat) (lines : List Line) : (lastOf n lines).length = min n lines.length := by
  rw [lastOf, List.length_drop]
  omega

lemma drop_lastOf (n : Nat) (hunk ks rest : List Line) :
    (hunk ++ (ks ++ rest)).drop (hunk.length + (ks.length - n)) = lastOf n ks ++ rest := by
  rw [← List.drop_drop, List.drop_left, List.drop_append_of_le_length (by omega), lastOf]

lemma trimLast_changed (n : Nat) (cs : List Line) (ss : List Stretch) :
    trimLast n (⟨true, cs⟩ :: ss) = ⟨true, cs⟩ :: trimLast n ss := by
  rw [trimLast]
  simp

lemma trimLast_between (n : Nat) (ks cs : List Line) (ss : List Stretch) :
    trimLast n (⟨false, ks⟩ :: ⟨true, cs⟩ :: ss) = ⟨false, ks⟩ :: ⟨true, cs⟩ :: trimLast n ss := by
  rw [trimLast, trimLast_changed]
  simp

lemma lines_cons (b : Bool) (lines : List Line) (ss : List Stretch) :
    (⟨b, lines⟩ :: ss).flatMap Stretch.lines = lines ++ ss.flatMap Stretch.lines := rfl

lemma cut_short (h : ks.length ≤ 2 * n) (hunk : List Line) (ss : List Stretch) :
    cut n hunk (⟨false, ks⟩ :: ss) = cut n (hunk ++ ks) ss := by
  rw [cut, if_neg (by simpa using h)]

lemma cut_long (h : 2 * n < ks.length) (hunk : List Line) (ss : List Stretch) :
    cut n hunk (⟨false, ks⟩ :: ss) = (hunk ++ ks.take n) :: cut n (lastOf n ks) ss := by
  rw [cut, if_pos (by simpa using h)]

lemma cut_changed (n : Nat) (hunk cs : List Line) (ss : List Stretch) :
    cut n hunk (⟨true, cs⟩ :: ss) = cut n (hunk ++ cs) ss := by
  rw [cut, if_neg (by simp)]

lemma windows_last (hk : ∀ l ∈ ks, l.tag = .equal) (hend : IsChange hunk (hunk.length - 1))
    (hnear : ∀ i < hunk.length, Near n hunk i) : Windows n (hunk ++ ks) [hunk ++ ks.take n] := by
  have hpos := hend.lt
  have hlen : (hunk ++ ks.take n).length = hunk.length + min n ks.length := by simp
  have hsplit : hunk ++ ks = hunk ++ ks.take n ++ ks.drop n := by simp
  have hiff : ∀ i, Near n (hunk ++ ks) i ↔ i < (hunk ++ ks.take n).length := by
    intro i
    rw [hlen]
    constructor
    · rintro ⟨hl, j, hj, h₁, -⟩
      rw [List.length_append] at hl
      have hj' : j < hunk.length := by
        rcases isChange_append.1 hj with h | ⟨-, h⟩
        · exact h.lt
        · exact absurd h (not_isChange_of_all hk)
      omega
    · intro hi
      exact near_of_end hend hnear (by omega) (by rw [List.length_append]; omega)
  rw [hsplit] at hiff ⊢
  exact .front (by rw [hlen]; omega) hiff

lemma windows_long {hunks : List (List Line)} (hk : ∀ l ∈ ks, l.tag = .equal) (hlong : 2 * n < ks.length)
    (hend : IsChange hunk (hunk.length - 1)) (hnear : ∀ i < hunk.length, Near n hunk i)
    (h : Windows n (lastOf n ks ++ rest) hunks) :
    Windows n (hunk ++ (ks ++ rest)) ((hunk ++ ks.take n) :: hunks) := by
  have hpos := hend.lt
  have hlen : (hunk ++ ks.take n).length = hunk.length + n := by
    rw [List.length_append, List.length_take, min_eq_left (by omega)]
  have hsplit : hunk ++ (ks ++ rest) = hunk ++ ks.take n ++ (ks.drop n ++ rest) := by
    rw [List.append_assoc, ← List.append_assoc (ks.take n), List.take_append_drop]
  have hfar : ∀ k < hunk.length + (ks.length - n), IsChange (hunk ++ (ks ++ rest)) k →
      k + n < hunk.length + (ks.length - n) := by
    intro k hlt hc
    rcases hc.outside hk with h | h <;> omega
  have hiff : ∀ i < hunk.length + (ks.length - n),
      Near n (hunk ++ (ks ++ rest)) i ↔ i < (hunk ++ ks.take n).length := by
    intro i hi
    rw [hlen]
    constructor
    · intro hn
      rcases hn.reach hk with h | h <;> omega
    · intro hin
      exact near_of_end hend hnear hin (by simp only [List.length_append]; omega)
  rw [← drop_lastOf n hunk ks rest] at h
  rw [hsplit] at h hfar hiff ⊢
  exact .cons h (by omega) (by omega) hfar hiff

lemma windows_cut (h : Alternating ss) (hend : IsChange hunk (hunk.length - 1))
    (hnear : ∀ i < hunk.length, Near n hunk i) :
    Windows n (hunk ++ ss.flatMap Stretch.lines) (cut n hunk (trimLast n ss)) := by
  -- The hunk at hand ends with a change and is near changes throughout; each step hands both on.
  induction h generalizing hunk with
  | nil =>
    rw [trimLast, cut]
    exact .front (by have := hend.lt; omega) fun i =>
      ⟨fun hi => by simpa using hi.1, fun hi => (hnear i hi).append _⟩
  | @last ks hk =>
    have hshort : (ks.take n).length ≤ 2 * n := by rw [List.length_take]; omega
    rw [trimLast, cut_short hshort, cut, List.flatMap_singleton]
    exact windows_last hk hend hnear
  | @changed cs ss hc hne h ih =>
    rw [trimLast_changed, cut_changed, lines_cons, ← List.append_assoc]
    refine ih (isChange_end hc hne hunk) fun i => near_of_begin hc hne fun i hfar => ?_
    exact (hnear i (by omega)).append cs
  | @between ks cs ss hk hc hne h ih =>
    rw [trimLast_between, lines_cons, lines_cons]
    rcases Nat.lt_or_ge (2 * n) ks.length with hlong | hshort
    · rw [cut_long hlong, cut_changed]
      refine windows_long hk hlong hend hnear ?_
      rw [← List.append_assoc]
      refine ih (isChange_end hc hne _) fun i => near_of_begin hc hne fun i hfar => ?_
      rw [length_lastOf] at hfar
      omega
    · rw [cut_short hshort, cut_changed, ← List.append_assoc, ← List.append_assoc]
      refine ih (isChange_end hc hne _) fun i => near_of_begin hc hne fun i hfar => ?_
      rw [List.length_append] at hfar
      rw [List.append_assoc]
      exact near_of_end hend hnear (by omega) (by simp only [List.length_append]; omega)

lemma windows_of_alternating (h : Alternating ss) (n : Nat) : Windows n (ss.flatMap Stretch.lines)
    (if ss.any Stretch.isChanged then cut n [] (trimLast n (trimFirst n ss)) else []) := by
  cases h with
  | nil => exact .none fun i hi => absurd hi.lt (by simp)
  | last hk =>
    rw [if_neg (by simp), List.flatMap_singleton]
    exact .none fun i => not_isChange_of_all hk
  | @changed cs ss hc hne h =>
    rw [if_pos (by simp), trimFirst, trimLast_changed, cut_changed, lines_cons, List.nil_append]
    · have hnear : ∀ i < cs.length, Near n cs i := fun i hi => (isChange_of_all hc hi).near n
      exact windows_cut h (isChange_end hc hne []) hnear
    · simp
  | @between ks cs ss hk hc hne h =>
    have hshort : (lastOf n ks).length ≤ 2 * n := by rw [length_lastOf]; omega
    -- What `trimFirst` leaves is the script without its first lines, so the windows move by those.
    have hdrop := drop_lastOf n [] ks (cs ++ ss.flatMap Stretch.lines)
    simp only [List.nil_append, List.length_nil, Nat.zero_add] at hdrop
    rw [if_pos (by simp), trimFirst, trimLast_between, cut_short hshort, cut_changed, List.nil_append,
      lines_cons, lines_cons]
    have hw := windows_cut h (isChange_end hc hne (lastOf n ks)) fun i =>
      near_of_begin (n := n) hc hne fun i hfar => by rw [length_lastOf] at hfar; omega
    rw [List.append_assoc, ← hdrop] at hw
    have hlead : ∀ j, IsChange (ks ++ (cs ++ ss.flatMap Stretch.lines)) j → ks.length ≤ j := fun j hj => by
      rcases isChange_append.1 hj with h | h
      · exact absurd h (not_isChange_of_all hk)
      · exact h.1
    refine hw.behind (fun j hlt hj => ?_) fun i hlt hi => ?_
    · have := hlead j hj
      omega
    · obtain ⟨-, j, hj, -, h₂⟩ := hi
      have := hlead j hj
      omega

end Cut

section Stretches

variable {i j : Nat} {ss : List Stretch} {ks : List Line} {xs ys : List (List Char)}

lemma tag_of_mem_changed {l : Line} (h : l ∈ (stretchOf i j (.changed xs ys)).lines) : l.tag ≠ .equal := by
  rcases List.mem_append.1 h with h | h
  · simp [tag_of_mem_deleted h]
  · simp [tag_of_mem_inserted h]

lemma changed_ne_nil (h : xs ≠ [] ∨ ys ≠ []) : (stretchOf i j (.changed xs ys)).lines ≠ [] := by
  simp only [stretchOf, deletedLines, insertedLines, ne_eq, List.append_eq_nil_iff, List.map_eq_nil_iff,
    List.zipIdx_eq_nil_iff, not_and_or]
  exact h

lemma Alternating.kept_of_kept {ks' : List Line} (h : Alternating (⟨false, ks⟩ :: ss))
    (hk : ∀ l ∈ ks', l.tag = .equal) : Alternating (⟨false, ks'⟩ :: ss) := by
  cases h with
  | last => exact .last hk
  | between _ hc hne h => exact .between hk hc hne h

lemma Alternating.kept_cons {cs : List Line} (h : Alternating (⟨true, cs⟩ :: ss))
    (hk : ∀ l ∈ ks, l.tag = .equal) : Alternating (⟨false, ks⟩ :: ⟨true, cs⟩ :: ss) := by
  cases h with
  | changed hc hne h => exact .between hk hc hne h

lemma alternating_joinKept {segments : List (Segment (List Char))}
    (h : ∀ xs ys, .changed xs ys ∈ segments → xs ≠ [] ∨ ys ≠ []) (i j : Nat) :
    Alternating (stretchesFrom i j (joinKept segments)) := by
  -- A kept segment is judged by what the rest was joined to, since the two may become one stretch.
  induction segments generalizing i j with
  | nil => exact .nil
  | cons s rest ih =>
    have hrest := ih fun xs ys hm => h xs ys (List.mem_cons_of_mem s hm)
    cases s with
    | changed xs ys =>
      exact .changed (fun l => tag_of_mem_changed) (changed_ne_nil (h xs ys List.mem_cons_self)) (hrest _ _)
    | kept xs =>
      have hk : ∀ zs, ∀ l ∈ keptLines i j zs, l.tag = .equal := fun zs l => tag_of_mem_kept
      cases hr : joinKept rest with
      | nil =>
        simp only [joinKept, hr]
        exact .last (hk xs)
      | cons u more =>
        cases u with
        | changed ys zs =>
          simp only [joinKept, hr]
          have hm := hrest (i + xs.length) (j + xs.length)
          rw [hr] at hm
          exact hm.kept_cons (hk xs)
        | kept ys =>
          simp only [joinKept, hr]
          have hm := hrest (i + xs.length) (j + xs.length)
          rw [hr, stretchesFrom] at hm
          have hnext := hm.kept_of_kept (hk (xs ++ ys))
          simpa [stretchesFrom, stretchOf, Segment.old, Segment.new, Nat.add_assoc] using hnext

lemma alternating_stretches (old new : List Char) : Alternating (stretches old new) :=
  alternating_joinKept (fun _ _ h => ((spaced_alignRuns _ _).isGap_of_mem h).ne_nil) 0 0

lemma any_isChanged_stretchesFrom (i j : Nat) (segments : List (Segment (List Char))) :
    (stretchesFrom i j segments).any Stretch.isChanged = segments.any Segment.isChanged := by
  induction segments generalizing i j with
  | nil => rfl
  | cons s rest ih =>
    rw [stretchesFrom, List.any_cons, List.any_cons, ih]
    cases s <;> rfl

lemma Alternating.any_isChanged_iff (h : Alternating ss) :
    ss.any Stretch.isChanged = true ↔ ∃ i, IsChange (ss.flatMap Stretch.lines) i := by
  have hfirst : ∀ {cs : List Line} (ks rest : List Line), (∀ l ∈ cs, l.tag ≠ .equal) → cs ≠ [] →
      ∃ i, IsChange (ks ++ (cs ++ rest)) i := fun ks rest hc hne => by
    have hin := isChange_of_all hc (List.length_pos_iff.2 hne)
    exact ⟨ks.length, isChange_append.2 (.inr ⟨le_rfl, by simpa using isChange_append.2 (.inl hin)⟩)⟩
  cases h with
  | nil => simpa using fun i (h : IsChange [] i) => absurd h.lt (by simp)
  | last hk => simpa using fun i => not_isChange_of_all hk
  | changed hc hne h => exact iff_of_true (by simp) (hfirst [] _ hc hne)
  | between hk hc hne h => exact iff_of_true (by simp) (hfirst _ _ hc hne)

end Stretches

section Texts

variable {n : Nat} {lines : List Line}

lemma hasChanges_iff (lines : List Line) : hasChanges lines = true ↔ ∃ i, IsChange lines i := by
  simp only [hasChanges, List.any_eq_true, IsChange, List.mem_iff_getElem?]
  constructor
  · rintro ⟨l, ⟨i, hi⟩, hl⟩
    exact ⟨i, l, hi, by simpa using hl⟩
  · rintro ⟨i, l, hi, hl⟩
    exact ⟨l, ⟨i, hi⟩, by simpa using hl⟩

lemma hasChanges_script_iff (old new : List Char) : hasChanges (script old new) = true ↔ old ≠ new := by
  rw [hasChanges_iff, script, ← (alternating_stretches old new).any_isChanged_iff, stretches,
    any_isChanged_stretchesFrom, ← hasDiff_iff, hasDiff]

lemma windows_hunks (old new : List Char) (n : Nat) : Windows n (script old new) (hunks old new n) :=
  windows_of_alternating (alternating_stretches old new) n

lemma Windows.ne_nil_iff {hunks : List (List Line)} (h : Windows n lines hunks) :
    hunks ≠ [] ↔ ∃ i, IsChange lines i := by
  obtain ⟨spans, rfl, hs⟩ := h
  rw [ne_eq, List.map_eq_nil_iff]
  constructor
  · intro hne
    obtain ⟨s, hm⟩ := List.exists_mem_of_ne_nil spans hne
    obtain ⟨-, j, hj, -⟩ := hs.holds s hm s.start ⟨le_rfl, hs.nonempty s hm⟩
    exact ⟨j, hj⟩
  · rintro ⟨i, hi⟩ rfl
    obtain ⟨s, hm, -⟩ := hs.covers i (hi.near n)
    cases hm

lemma Splits.exists_isChange {spans : List Span} (h : Splits (Near n lines) spans) {s : Span} (hs : s ∈ spans) :
    ∃ i, s.Has i ∧ IsChange lines i := by
  have hlt := h.nonempty s hs
  obtain ⟨hl, j, hj, h₁, h₂⟩ := h.holds s hs s.start ⟨le_rfl, hlt⟩
  have hjl := hj.lt
  refine ⟨j, ⟨?_, ?_⟩, hj⟩
  · by_contra hbefore
    exact (h.maximal hs).before (s.start - 1) (by omega) ⟨by omega, j, hj, by omega, by omega⟩
  · by_contra hafter
    exact (h.maximal hs).after ⟨by omega, j, hj, by omega, by omega⟩

/-- The hunks of two texts are the maximal runs of lines of their script that are at most `n` places
away from a change, in order. So each change is in one of them, each has a change, and between two
of them an unchanged line is left out. -/
theorem hunks_are_runs (old new : List Char) (n : Nat) :
    let lines := script old new
    ∃ spans : List Span, hunks old new n = spans.map (·.slice lines) ∧
      (∀ s, s ∈ spans ↔ MaximalRun (Near n lines) s) ∧
      spans.Pairwise (fun s t => s.stop < t.start) ∧
      (∀ i, IsChange lines i → ∃! s, s ∈ spans ∧ s.Has i) ∧
      (∀ s ∈ spans, ∃ i, s.Has i ∧ IsChange lines i) ∧
      ∀ s ∈ spans, ∀ t ∈ spans, s.stop < t.start →
        (∃ l, lines[s.stop]? = some l ∧ l.tag = .equal) ∧ ∀ u ∈ spans, ¬ u.Has s.stop := by
  intro lines
  obtain ⟨spans, heq, h⟩ := windows_hunks old new n
  refine ⟨spans, heq, h.mem_iff, h.apart, fun i hi => ?_, fun s hs => h.exists_isChange hs, ?_⟩
  · -- spans have gaps between them, so no other one holds the same line
    obtain ⟨s, hs, hsi⟩ := h.covers i (hi.near n)
    refine ⟨s, ⟨hs, hsi⟩, ?_⟩
    rintro t ⟨ht, hti⟩
    exact h.eq_of_has ht hs ⟨by have := hti.1; omega, hti.2.le⟩ hsi
  · intro s hs t ht hst
    have hafter := (h.maximal hs).after
    have hl : s.stop < lines.length := by
      have := (h.holds t ht t.start ⟨le_rfl, h.nonempty t ht⟩).1
      exact hst.trans this
    refine ⟨⟨lines[s.stop], List.getElem?_eq_getElem hl, ?_⟩, fun u hu hus => hafter (h.holds u hu _ hus)⟩
    by_contra hne
    exact hafter (IsChange.near ⟨lines[s.stop], List.getElem?_eq_getElem hl, hne⟩ n)

theorem drift_tfae (old new : List Char) (n : Nat) :
    List.TFAE [old ≠ new, hasDiff old new = true, hasChanges (script old new) = true, hunks old new n ≠ []] := by
  have hdiff := hasDiff_iff old new
  have hscript := hasChanges_script_iff old new
  have hhunks := (windows_hunks old new n).ne_nil_iff
  rw [← hasChanges_iff] at hhunks
  tfae_have 2 ↔ 1 := hdiff
  tfae_have 3 ↔ 1 := hscript
  tfae_have 4 ↔ 3 := hhunks
  tfae_finish

end Texts

end ConfigKeeper.Diff
