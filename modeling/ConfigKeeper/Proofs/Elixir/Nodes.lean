import ConfigKeeper.Proofs.Elixir.Spots

/-!
Located nodes by their places. Two nodes either stand one after the other in the text, or one of them is
below the other.
-/

namespace ConfigKeeper.Elixir.Tree

variable {t u v : Tree} {s : Spot} {k : Kind} {n : Located} {p q place : List ℕ} {i j : ℕ}

section Locate

def parentAt (t : Tree) (place : List ℕ) : Option Kind :=
  if place = [] then none else (t.at? place.dropLast).map kind

def located (t : Tree) (s : Spot) : Located := ⟨t.offsetAt s.place, s.tree, t.parentAt s.place⟩

lemma parentAt_concat (t : Tree) (place : List ℕ) (i : ℕ) : t.parentAt (place ++ [i]) = (t.at? place).map kind := by
  simp [parentAt]

lemma offsetAt_append (h : t.at? p = some u) (q : List ℕ) : t.offsetAt (p ++ q) = t.offsetAt p + u.offsetAt q := by
  induction p generalizing t with
  | nil =>
    obtain rfl := Option.some.inj h
    simp [offsetAt]
  | cons i p ih =>
    obtain ⟨c, hc, hu⟩ := Option.bind_eq_some_iff.1 h
    simp only [List.cons_append, offsetAt, hc, Option.elim_some, ih hu, Nat.add_assoc]

lemma offsetAt_next (h : t.at? place = some u) (hi : u.children[i]? = some v) :
    t.offsetAt (place ++ [i]) + v.text.length = t.offsetAt (place ++ [i + 1]) := by
  have hchild (j : ℕ) : u.offsetAt [j] = (textOfAll (u.children.take j)).length := by
    cases hj : u.children[j]? <;> simp [offsetAt, hj]
  rw [offsetAt_append h, offsetAt_append h, hchild, hchild, List.take_add_one, hi, textOfAll_append]
  simp [textOfAll, Nat.add_assoc]

mutual

lemma locate_eq (place : List ℕ) : ∀ u : Tree, t.at? place = some u →
    locate (t.offsetAt place) (t.parentAt place) u = (spotsAt place u).map t.located
  | .leaf k a, _ => rfl
  | .node k cs, h => by
    have hzero : t.offsetAt (place ++ [0]) = t.offsetAt place := by
      rw [offsetAt_append h]
      cases hc : (children (.node k cs))[0]? <;> simp [offsetAt, textOfAll, hc]
    rw [locate, spotsAt, List.map_cons, ← locateAll_eq place h 0 cs rfl, hzero]
    rfl

lemma locateAll_eq (place : List ℕ) {k : Kind} {cs : List Tree} (h : t.at? place = some (.node k cs)) :
    ∀ (i : ℕ) (ts : List Tree), cs.drop i = ts →
      locateAll (t.offsetAt (place ++ [i])) k ts = (spotsFrom place i ts).map t.located
  | _, [], _ => rfl
  | i, c :: ts, hi => by
    have hc : cs[i]? = some c := by rw [← List.head?_drop, hi, List.head?_cons]
    have hat : t.at? (place ++ [i]) = some c := by
      rw [at?_append, h]
      simp [at?, children, hc]
    have hparent : t.parentAt (place ++ [i]) = some k := by
      rw [parentAt_concat, h]
      rfl
    have hrest : cs.drop (i + 1) = ts := by rw [← List.drop_drop, hi, List.drop_one, List.tail_cons]
    rw [locateAll, spotsFrom, List.map_append, ← locate_eq _ c hat, ← locateAll_eq place h (i + 1) ts hrest,
      offsetAt_next h hc, hparent]

end

lemma nodes_eq (t : Tree) : t.nodes = (spotsAt [] t).map t.located := locate_eq [] t rfl

lemma mem_nodes : n ∈ t.nodes ↔ ∃ s, t.Has s ∧ t.located s = n := by
  simp [nodes_eq, mem_spotsAt, Has]

lemma length_text (s : Spot) : s.tree.text.length = s.text.length := by simp [Spot.text, textString]

end Locate

section Lengths

lemma stop_le (h : t.at? p = some u) : t.offsetAt p + u.text.length ≤ t.text.length := by
  have habove := (text_of_at? h).length_le
  rw [List.length_drop] at habove
  have hle := offsetAt_le t p
  omega

lemma stop_le_of_lt (h : t.at? (i :: p) = some u) (hij : i < j) (q : List ℕ) :
    t.offsetAt (i :: p) + u.text.length ≤ t.offsetAt (j :: q) := by
  obtain ⟨c, hc, hu⟩ := Option.bind_eq_some_iff.1 h
  have hnext : (textOfAll (t.children.take (i + 1))).length =
      (textOfAll (t.children.take i)).length + c.text.length := by
    rw [List.take_add_one, textOfAll_append, List.length_append, hc]
    simp [textOfAll]
  calc t.offsetAt (i :: p) + u.text.length
      = (textOfAll (t.children.take i)).length + (c.offsetAt p + u.text.length) := by
        simp [offsetAt, hc, Nat.add_assoc]
    _ ≤ (textOfAll (t.children.take i)).length + c.text.length := Nat.add_le_add_left (stop_le hu) _
    _ = (textOfAll (t.children.take (i + 1))).length := hnext.symm
    _ ≤ (textOfAll (t.children.take j)).length := length_take_le hij _
    _ ≤ t.offsetAt (j :: q) := Nat.le_add_right _ _

lemma place_cases (h : p < q) : (∃ i r, q = p ++ i :: r) ∨
    ∃ c i r j r', i < j ∧ p = c ++ i :: r ∧ q = c ++ j :: r' := by
  induction p generalizing q with
  | nil =>
    cases q with
    | nil => exact absurd h (List.not_lt_nil _)
    | cons j q => exact .inl ⟨j, q, rfl⟩
  | cons i p ih =>
    cases q with
    | nil => exact absurd h (List.not_lt_nil _)
    | cons j q =>
      rcases List.cons_lt_cons_iff.1 h with hij | ⟨rfl, hlt⟩
      · exact .inr ⟨[], i, p, j, q, hij, rfl, rfl⟩
      · rcases ih hlt with ⟨k, r, rfl⟩ | ⟨c, k, r, l, r', hkl, rfl, rfl⟩
        · exact .inl ⟨k, r, rfl⟩
        · exact .inr ⟨i :: c, k, r, l, r', hkl, rfl, rfl⟩

lemma stop_le_offset {x y : Spot} (hx : t.Has x) (h : x.place < y.place) (hno : ¬ x.place <+: y.place) :
    (t.located x).stop ≤ (t.located y).offset := by
  rcases place_cases h with ⟨i, r, hy⟩ | ⟨c, i, r, j, r', hij, hxp, hyp⟩
  · exact absurd ⟨i :: r, hy.symm⟩ hno
  · change t.offsetAt x.place + x.tree.text.length ≤ t.offsetAt y.place
    rw [Has, hxp, at?_append] at hx
    obtain ⟨w, hw, hx⟩ := Option.bind_eq_some_iff.1 hx
    rw [hxp, hyp, offsetAt_append hw, offsetAt_append hw, Nat.add_assoc]
    exact Nat.add_le_add_left (stop_le_of_lt hx hij r') _

lemma length_add_le (hi : t.children[i]? = some u) (hj : t.children[j]? = some v) (hij : i ≠ j) :
    u.text.length + v.text.length ≤ t.text.length := by
  have hat {k : ℕ} {w : Tree} (hk : t.children[k]? = some w) : t.at? [k] = some w := by
    rw [at?, hk]
    rfl
  rcases Nat.lt_or_gt_of_ne hij with hlt | hlt
  · have huv := stop_le_of_lt (hat hi) hlt []
    have hv := stop_le (hat hj)
    omega
  · have hvu := stop_le_of_lt (hat hj) hlt []
    have hu := stop_le (hat hi)
    omega

lemma exists_getElem?_of_mem {c : Spot} (h : c ∈ s.children) : ∃ i : ℕ, s.tree.children[i]? = some c.tree := by
  obtain ⟨i, hi, -⟩ := mem_listed.1 h
  exact ⟨i, hi⟩

lemma length_le_of_mem {c : Spot} (h : c ∈ s.children) : c.tree.text.length ≤ s.tree.text.length := by
  obtain ⟨i, hi⟩ := exists_getElem?_of_mem h
  have hat : s.tree.at? [i] = some c.tree := by
    rw [at?, hi]
    rfl
  exact (Nat.le_add_left _ _).trans (stop_le hat)

lemma length_add_le_of_mem {c d : Spot} (hc : c ∈ s.children) (hd : d ∈ s.children) (hkind : c.kind ≠ d.kind) :
    c.tree.text.length + d.tree.text.length ≤ s.tree.text.length := by
  obtain ⟨i, hi⟩ := exists_getElem?_of_mem hc
  obtain ⟨j, hj⟩ := exists_getElem?_of_mem hd
  refine length_add_le hi hj fun hij => hkind ?_
  rw [hij, hj, Option.some.injEq] at hi
  exact congrArg Tree.kind hi.symm

lemma Has.eq {x y : Spot} (hx : t.Has x) (hy : t.Has y) (h : x.place = y.place) : x = y := by
  obtain ⟨at_, u⟩ := x
  obtain rfl : at_ = y.place := h
  rw [Has] at hx hy
  rw [hx, Option.some.injEq] at hy
  subst hy
  rfl

/-- Nodes are told apart by their stretches, if they have text and one below another has less of it. -/
lemma eq_of_range_eq {P : Spot → Prop} (hpos : ∀ x, P x → 0 < x.tree.text.length)
    (hbelow : ∀ x y, t.Has x → t.Has y → P x → P y → x.place < y.place → x.place <+: y.place →
      y.tree.text.length < x.tree.text.length)
    {x y : Spot} (hx : t.Has x) (hy : t.Has y) (hPx : P x) (hPy : P y)
    (hrange : (t.located x).range = (t.located y).range) : x = y := by
  -- one of the two nodes comes first, so take that one
  have hlt {x y : Spot} (hx : t.Has x) (hy : t.Has y) (hPx : P x) (hPy : P y)
      (hrange : (t.located x).range = (t.located y).range) : ¬ x.place < y.place := by
    intro hlt
    obtain ⟨hoffset, hstop⟩ := Prod.mk.inj hrange
    have hstop' : (t.located x).offset + x.tree.text.length = (t.located y).offset + y.tree.text.length := hstop
    by_cases habove : x.place <+: y.place
    · have := hbelow x y hx hy hPx hPy hlt habove
      omega
    · have hle : (t.located x).offset + x.tree.text.length ≤ (t.located y).offset := stop_le_offset hx hlt habove
      have := hpos x hPx
      omega
  rcases lt_trichotomy x.place y.place with h | h | h
  · exact absurd h (hlt hx hy hPx hPy hrange)
  · exact hx.eq hy h
  · exact absurd h (hlt hy hx hPy hPx hrange.symm)

end Lengths

end ConfigKeeper.Elixir.Tree
