import ConfigKeeper.Proofs.Project.Growth
import Mathlib.Tactic

/-!
What lies below a directory, and the order of paths. In a tree with one entry at each place the files below
a place are the entries there, and sorting their paths puts each before the next.
-/

namespace ConfigKeeper

namespace Path

lemma lexLess_irrefl (xs : List String) : lexLess xs xs = false := by
  induction xs with
  | nil => rfl
  | cons x xs ih => rw [lexLess, if_pos rfl, ih]

lemma lexLess_trans {xs ys zs : List String} (h : lexLess xs ys = true) (h' : lexLess ys zs = true) :
    lexLess xs zs = true := by
  induction xs generalizing ys zs with
  | nil =>
    cases zs with
    | nil => cases ys <;> cases h'
    | cons z zs => rfl
  | cons x xs ih =>
    cases ys with
    | nil => cases h
    | cons y ys =>
      cases zs with
      | nil => cases h'
      | cons z zs =>
        rw [lexLess] at h h' ⊢
        by_cases hxy : x = y
        · rw [hxy]
          rw [if_pos hxy] at h
          by_cases hyz : y = z
          · rw [if_pos hyz] at h' ⊢
            exact ih h h'
          · rwa [if_neg hyz] at h' ⊢
        · rw [if_neg hxy, decide_eq_true_eq] at h
          have hxz : x < z := by
            by_cases hyz : y = z
            · exact hyz ▸ h
            · rw [if_neg hyz, decide_eq_true_eq] at h'
              exact String.lt_trans h h'
          have hne : x ≠ z := by
            rintro rfl
            exact String.lt_irrefl x hxz
          rw [if_neg hne, decide_eq_true_eq]
          exact hxz

lemma lexLess_trichotomy (xs ys : List String) : lexLess xs ys = true ∨ xs = ys ∨ lexLess ys xs = true := by
  induction xs generalizing ys with
  | nil => cases ys <;> simp [lexLess]
  | cons x xs ih =>
    cases ys with
    | nil => simp [lexLess]
    | cons y ys =>
      rw [lexLess, lexLess]
      by_cases h : x = y
      · rw [if_pos h, if_pos h.symm, h, List.cons.injEq, and_iff_right rfl]
        exact ih ys
      · rw [if_neg h, if_neg (Ne.symm h), decide_eq_true_eq, decide_eq_true_eq]
        by_cases hxy : x < y
        · exact .inl hxy
        · refine .inr (.inr ?_)
          by_contra hyx
          exact h (String.le_antisymm (String.not_lt.1 hyx) (String.not_lt.1 hxy))

lemma less_irrefl (p : Path) : p.less p = false := lexLess_irrefl _

lemma components_under (root : Path) (names : List String) :
    (root.under names).components = root.components ++ names := by
  rw [components, components]
  change (if root.isAbsolute = true then _ else _) = _
  split <;> rfl

lemma components_under_injective (root : Path) : Function.Injective fun names => (root.under names).components := by
  intro names names' h
  simpa only [components_under, List.append_cancel_left_eq] using h

lemma sorted_under (root : Path) {below : List (List String)} (hd : below.Nodup) :
    ((below.map root.under).mergeSort fun p q => !q.less p).Pairwise fun p q => p.less q = true := by
  have hsorted : ((below.map root.under).mergeSort fun p q => !q.less p).Pairwise fun p q => (!q.less p) = true := by
    refine List.pairwise_mergeSort ?_ ?_ _
    · intro p q r hpq hqr
      rw [Bool.not_eq_true'] at hpq hqr ⊢
      rw [Bool.eq_false_iff] at hpq hqr ⊢
      intro hrp
      rcases lexLess_trichotomy p.components q.components with hlt | heq | hgt
      · exact hqr (lexLess_trans hrp hlt)
      · exact hqr (show lexLess _ _ = true from heq ▸ hrp)
      · exact hpq hgt
    · intro p q
      rw [Bool.or_eq_true, Bool.not_eq_true', Bool.not_eq_true']
      by_contra hboth
      rw [not_or, Bool.not_eq_false, Bool.not_eq_false] at hboth
      have hcycle := lexLess_trans hboth.1 hboth.2
      rw [lexLess_irrefl] at hcycle
      cases hcycle
  have hdistinct : ((below.map root.under).mergeSort fun p q => !q.less p).Pairwise fun p q =>
      p.components ≠ q.components := by
    rw [← List.pairwise_map, ← List.Nodup, ((List.mergeSort_perm _ _).map _).nodup_iff, List.map_map]
    exact hd.map (components_under_injective root)
  refine (hsorted.and hdistinct).imp fun {p q} h => ?_
  rcases lexLess_trichotomy p.components q.components with hlt | heq | hgt
  · exact hlt
  · exact absurd heq h.2
  · rw [show q.less p = true from hgt] at h
    cases h.1

end Path

namespace Project

variable {t : Project} {place : Place} {names : List String}

def Distinct (t : Project) : Prop := (t.entries.map Prod.fst).Nodup

lemma below_iff {own : Place} :
    (if place.isPrefixOf own && place.length < own.length then some (own.drop place.length) else none) = some names ↔
      own = place ++ names ∧ names ≠ [] := by
  constructor
  · intro h
    split at h
    · next hb =>
      rw [Bool.and_eq_true, List.isPrefixOf_iff_prefix, decide_eq_true_eq] at hb
      obtain ⟨⟨rest, rfl⟩, hlength⟩ := hb
      cases h
      rw [List.drop_left]
      refine ⟨rfl, ?_⟩
      rintro rfl
      simp at hlength
    · cases h
  · rintro ⟨rfl, hn⟩
    have hlength := List.length_pos_iff.2 hn
    rw [if_pos (by simpa using hlength), List.drop_left]

lemma mem_namesBelow : names ∈ t.namesBelow place ↔ place ++ names ∈ t.entries.map Prod.fst ∧ names ≠ [] := by
  simp only [namesBelow, List.mem_filterMap, below_iff, List.mem_map]
  constructor
  · rintro ⟨x, hx, he, hn⟩
    exact ⟨⟨x, hx, he⟩, hn⟩
  · rintro ⟨⟨x, hx, he⟩, hn⟩
    exact ⟨x, hx, he, hn⟩

lemma mem_filesBelow (hd : t.Distinct) :
    names ∈ t.filesBelow place ↔ names ≠ [] ∧ ∃ content, t.entryAt (place ++ names) = some (.file content) := by
  have hentry : ∀ {content}, names ≠ [] →
      (t.entryAt (place ++ names) = some (.file content) ↔ (place ++ names, .file content) ∈ t.entries) := by
    intro content hn
    rw [entryAt_of_ne_nil t (by simp [hn])]
    exact ⟨Association.mem_of_lookup, Association.lookup_of_mem hd⟩
  rw [filesBelow, List.mem_filterMap]
  constructor
  · rintro ⟨⟨own, _ | _⟩, hmem, hown⟩
    · obtain ⟨rfl, hn⟩ := below_iff.1 hown
      exact ⟨hn, _, (hentry hn).2 hmem⟩
    · cases hown
  · rintro ⟨hn, content, he⟩
    exact ⟨_, (hentry hn).1 he, below_iff.2 ⟨rfl, hn⟩⟩

lemma nodup_filesBelow (hd : t.Distinct) (place : Place) : (t.filesBelow place).Nodup := by
  rw [filesBelow, List.Nodup, List.pairwise_filterMap]
  refine (List.pairwise_map.1 hd).imp ?_
  rintro ⟨own, _ | _⟩ ⟨own', _ | _⟩ hne names hnames names' hnames' rfl
  · exact hne ((below_iff.1 hnames).1.trans (below_iff.1 hnames').1.symm)
  all_goals first | cases hnames | cases hnames'

lemma keys_insert {e own : Entry} (h : t.entryAt place = some own) (hn : place ≠ []) :
    (t.insert place e).entries.map Prod.fst = t.entries.map Prod.fst := by
  rw [entryAt_of_ne_nil t hn] at h
  have hmem := (Association.any_key_iff _ _).2 (Association.lookup_isSome_iff_mem.1 ⟨own, h⟩)
  rw [insert, if_pos hmem]
  exact Association.keys_replaced place t.entries e

lemma isFile_of_file {path : Path} {content : List UInt8} (hp : t.place path = .ok place)
    (he : t.entryAt place = some (.file content)) : t.isFile path = .ok true := by
  rw [isFile, entry?, hp]
  simp only [he]
  rfl

lemma isFile_of_no_file {path : Path} (hp : t.place path = .ok place)
    (hn : ¬ ∃ content, t.entryAt place = some (.file content)) :
    t.isFile path = .ok false ∧ ∃ e, t.readFile path = .error e := by
  rw [isFile, entry?, readFile, hp]
  rcases he : t.entryAt place with _ | content | _
  · simp only [he]
    exact ⟨rfl, _, rfl⟩
  · exact absurd ⟨content, he⟩ hn
  · simp only [he]
    exact ⟨rfl, _, rfl⟩

end Project

end ConfigKeeper
