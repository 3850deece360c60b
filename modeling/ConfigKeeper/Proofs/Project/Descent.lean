import ConfigKeeper.Project.Tree
import Mathlib.Tactic

/-!
Paths resolved by their text: `..` takes the name before it away, or leaves the directory that the
path is seen from. In a tree a path leads to the place that its text says.
-/

namespace ConfigKeeper

/-- Where names lead from a directory: `ups` directories up, then down along `names`. -/
structure Descent where
  ups : Nat
  names : List String
deriving DecidableEq, Repr

namespace Descent

def enter (d : Descent) (name : String) : Descent :=
  if name = ".." then
    if d.names = [] then ⟨d.ups + 1, []⟩ else ⟨d.ups, d.names.dropLast⟩
  else ⟨d.ups, d.names ++ [name]⟩

def ofNames (names : List String) : Descent := names.foldl enter ⟨0, []⟩

def placeFrom (d : Descent) (base : Place) : Place := base.take (base.length - d.ups) ++ d.names

lemma ofNames_concat (names : List String) (name : String) :
    ofNames (names ++ [name]) = (ofNames names).enter name := by
  rw [ofNames, List.foldl_append]
  rfl

lemma placeFrom_start (base : Place) : placeFrom ⟨0, []⟩ base = base := by
  simp [placeFrom]

lemma prefix_placeFrom {d : Descent} (h : d.ups = 0) (base : Place) : base <+: d.placeFrom base := by
  simp [placeFrom, h]

lemma step_placeFrom (d : Descent) (base : Place) (name : String) :
    Project.step (d.placeFrom base) name = (d.enter name).placeFrom base := by
  rw [Project.step, enter]
  by_cases hup : name = ".."
  · rw [if_pos hup, if_pos hup]
    by_cases hn : d.names = []
    · rw [if_pos hn, placeFrom, placeFrom, hn, List.append_nil, List.append_nil, List.dropLast_eq_take,
        List.take_take, List.length_take]
      congr 1
      simp only
      omega
    · rw [if_neg hn, placeFrom, List.dropLast_append_of_ne_nil hn]
      rfl
  · rw [if_neg hup, if_neg hup, placeFrom, List.append_assoc]
    rfl

lemma ups_enter_eq_zero_iff (d : Descent) (name : String) :
    (d.enter name).ups = 0 ↔ d.ups = 0 ∧ ¬ (name = ".." ∧ d.names = []) := by
  rw [enter]
  by_cases hup : name = ".."
  · by_cases hn : d.names = [] <;> simp [hup, hn]
  · simp [hup]

lemma length_names {names : List String} (h : (ofNames names).ups = 0) :
    (ofNames names).names.length + 2 * names.count ".." = names.length := by
  induction names using List.reverseRecOn with
  | nil => rfl
  | append_singleton names name ih =>
    rw [ofNames_concat] at h ⊢
    obtain ⟨hups, hstay⟩ := (ups_enter_eq_zero_iff _ _).1 h
    have hlength := ih hups
    rw [enter, List.count_append, List.length_append, List.length_singleton]
    by_cases hup : name = ".."
    · have hn : (ofNames names).names ≠ [] := fun hn => hstay ⟨hup, hn⟩
      have hpos := List.length_pos_iff.2 hn
      rw [if_pos hup, if_neg hn, hup, List.length_dropLast]
      simp only [List.count_singleton_self]
      omega
    · have hcount : [name].count ".." = 0 := List.count_eq_zero.2 (by simpa using Ne.symm hup)
      rw [if_neg hup, hcount, List.length_append, List.length_singleton]
      omega

lemma ups_pos_iff (names : List String) :
    0 < (ofNames names).ups ↔ ∃ front, front <+: names ∧ front.length < 2 * front.count ".." := by
  induction names using List.reverseRecOn with
  | nil =>
    refine iff_of_false (by simp [ofNames]) ?_
    rintro ⟨front, hfront, hcount⟩
    rw [List.prefix_nil.1 hfront] at hcount
    exact absurd hcount (by simp)
  | append_singleton names name ih =>
    have hfronts : (∃ front, front <+: names ++ [name] ∧ front.length < 2 * front.count "..") ↔
        (names ++ [name]).length < 2 * (names ++ [name]).count ".." ∨ 0 < (ofNames names).ups := by
      rw [ih]
      simp only [List.prefix_concat_iff, or_and_right, exists_or, exists_eq_left]
    -- from inside, the last name leads out exactly if it goes up from the directory itself
    rw [hfronts, ofNames_concat, Nat.pos_iff_ne_zero, Ne, ups_enter_eq_zero_iff, ← List.length_eq_zero_iff,
      List.count_append, List.length_append, List.length_singleton]
    by_cases hups : (ofNames names).ups = 0
    · have hlength := length_names hups
      simp only [hups, true_and, not_not, lt_irrefl, or_false]
      by_cases hup : name = ".."
      · have hcount : [name].count ".." = 1 := by rw [hup, List.count_singleton_self]
        rw [hcount, and_iff_right hup]
        omega
      · have hcount : [name].count ".." = 0 := List.count_eq_zero.2 (by simpa using Ne.symm hup)
        rw [hcount]
        refine iff_of_false (fun h => hup h.1) ?_
        omega
    · have hpos := Nat.pos_of_ne_zero hups
      simp [hups, hpos]

end Descent

namespace Project

variable {t : Project} {base q : Place} {names : List String}

lemma follow_descent (d : Descent) (h : t.follow (d.placeFrom base) names = .ok q) :
    q = (names.foldl Descent.enter d).placeFrom base := by
  induction names generalizing d with
  | nil => exact (Except.ok.inj h).symm
  | cons name names ih =>
    rw [follow] at h
    split at h
    · cases h
    · cases h
    · split at h
      · cases h
      · rw [Descent.step_placeFrom] at h
        exact ih _ h

lemma follow_ofNames (h : t.follow base names = .ok q) : q = (Descent.ofNames names).placeFrom base := by
  rw [← Descent.placeFrom_start base] at h
  exact follow_descent _ h

lemma follow_append (here : Place) (front back : List String) :
    t.follow here (front ++ back) = t.follow here front >>= fun base => t.follow base back := by
  induction front generalizing here with
  | nil => rfl
  | cons name front ih =>
    rw [List.cons_append, follow, follow]
    split
    · rfl
    · rfl
    · split
      · rfl
      · exact ih _

lemma follow_from {here : Place} {front : List String} (h : t.follow here front = .ok base) (back : List String) :
    t.follow here (front ++ back) = t.follow base back := by
  rw [follow_append, h]
  rfl

lemma size_intercalate (h : names ≠ []) :
    ("/".intercalate names).utf8ByteSize + 1 = (names.map fun n => n.utf8ByteSize + 1).sum := by
  induction names with
  | nil => exact absurd rfl h
  | cons name names ih =>
    cases names with
    | nil => simp
    | cons other names =>
      have hslash : "/".utf8ByteSize = 1 := by decide
      rw [String.intercalate_cons_cons, String.utf8ByteSize_append, String.utf8ByteSize_append, List.map_cons,
        List.sum_cons, ← ih (List.cons_ne_nil _ _), hslash]
      omega

lemma size_intercalate_le (front back : List String) :
    ("/".intercalate front).utf8ByteSize ≤ ("/".intercalate (front ++ back)).utf8ByteSize := by
  by_cases hf : front = []
  · simp [hf]
  · have hfront := size_intercalate hf
    have hall := size_intercalate (show front ++ back ≠ [] by simp [hf])
    rw [List.map_append, List.sum_append] at hall
    omega

lemma toString_of_ne_nil (a : Anchor) (h : names ≠ []) :
    (Path.mk a names).toString = a.text ++ "/".intercalate names := by
  cases a <;> cases names <;> first | rfl | exact absurd rfl h

lemma size_toString_front (a : Anchor) (front back : List String)
    (h : (Path.mk a (front ++ back)).toString.utf8ByteSize < pathLimit) :
    (Path.mk a front).toString.utf8ByteSize < pathLimit := by
  by_cases hf : front = []
  · subst hf
    cases a <;> decide +kernel
  · rw [toString_of_ne_nil a (by simp [hf]), String.utf8ByteSize_append] at h
    rw [toString_of_ne_nil a hf, String.utf8ByteSize_append]
    have hle := size_intercalate_le front back
    omega

lemma place_append {a : Anchor} {front back : List String} (h : t.place ⟨a, front ++ back⟩ = .ok q) :
    ∃ base, t.place ⟨a, front⟩ = .ok base ∧ t.follow base back = .ok q := by
  rw [place] at h
  split at h
  · cases h
  · next hnul =>
    have hnul' : ¬ (front.any fun n => n.toList.contains '\x00') = true := by
      intro hany
      rw [List.any_append, hany] at hnul
      exact hnul rfl
    split at h
    · cases h
    · next hsize =>
      split at h
      · next own hall =>
        cases h
        rw [follow_append] at hall
        cases hfront : t.follow (t.start ⟨a, front ++ back⟩) front with
        | error f =>
          rw [hfront] at hall
          cases hall
        | ok base =>
          rw [hfront] at hall
          refine ⟨base, ?_, hall⟩
          have hsize' := size_toString_front a front back (Nat.lt_of_not_le hsize)
          have hstart : t.start ⟨a, front⟩ = t.start ⟨a, front ++ back⟩ := rfl
          rw [place, if_neg hnul', if_neg (Nat.not_le.2 hsize'), hstart, hfront]
      · cases h

end Project

end ConfigKeeper
