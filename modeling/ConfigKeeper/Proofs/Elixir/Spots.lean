import ConfigKeeper.Secret.FromElixir
import Mathlib.Tactic

/-!
The nodes of a tree by their places. Places are ordered as in the text: a node comes before what is below
it, and that before the next node.
-/

namespace ConfigKeeper.Elixir

variable {t u : Tree} {ts : List Tree} {s c : Spot} {x : Spot × Spot} {p place : List ℕ} {i j : ℕ}

lemma mem_listed : s ∈ listed place i ts ↔ ∃ j, ts[j]? = some s.tree ∧ s.place = place ++ [i + j] := by
  induction ts generalizing i with
  | nil => simp [listed]
  | cons t ts ih =>
    obtain ⟨at_, tree⟩ := s
    rw [listed, List.mem_cons, ih, Spot.mk.injEq]
    constructor
    · rintro (⟨rfl, rfl⟩ | ⟨j, htree, hplace⟩)
      · exact ⟨0, rfl, rfl⟩
      · exact ⟨j + 1, htree, by rw [hplace, Nat.add_assoc, Nat.add_comm 1]⟩
    · rintro ⟨j, htree, hplace⟩
      cases j with
      | zero => exact .inl ⟨hplace, (Option.some.inj htree).symm⟩
      | succ j => exact .inr ⟨j, htree, by rw [hplace, Nat.add_assoc, Nat.add_comm 1]⟩

namespace Tree

def at? (t : Tree) : List ℕ → Option Tree
  | [] => some t
  | i :: p => t.children[i]?.bind fun c => c.at? p

lemma at?_append (t : Tree) (p q : List ℕ) : t.at? (p ++ q) = (t.at? p).bind fun u => u.at? q := by
  induction p generalizing t with
  | nil => rfl
  | cons i p ih =>
    rw [List.cons_append, at?, at?, Option.bind_assoc]
    exact Option.bind_congr fun c _ => ih c

def Has (t : Tree) (s : Spot) : Prop := t.at? s.place = some s.tree

lemma Has.child (h : t.Has s) (hc : c ∈ s.children) : t.Has c := by
  obtain ⟨i, htree, hplace⟩ := mem_listed.1 hc
  rw [Has] at h
  rw [Has, hplace, at?_append, h, Option.bind_some, at?, Nat.zero_add, htree]
  rfl

section Order

lemma lt_of_child_lt (h : i < j) (p q : List ℕ) : place ++ i :: p < place ++ j :: q :=
  List.append_left_lt (List.cons_lt_cons_iff.2 (.inl h))

lemma lt_below (i : ℕ) (p : List ℕ) : place < place ++ i :: p := by
  have happend : place ++ [] < place ++ i :: p := List.append_left_lt (List.nil_lt_cons i p)
  rwa [List.append_nil] at happend

mutual

lemma mem_spotsAt (place : List ℕ) : ∀ (t : Tree) {s : Spot},
    s ∈ spotsAt place t ↔ ∃ p, s.place = place ++ p ∧ t.at? p = some s.tree
  | .leaf k a, s => by
    obtain ⟨at_, tree⟩ := s
    rw [spotsAt, List.mem_singleton, Spot.mk.injEq]
    constructor
    · rintro ⟨rfl, rfl⟩
      exact ⟨[], by simp, rfl⟩
    · rintro ⟨p, hplace, htree⟩
      cases p with
      | nil => exact ⟨by simpa using hplace, (Option.some.inj htree).symm⟩
      | cons i p => simp [at?, children] at htree
  | .node k cs, s => by
    obtain ⟨at_, tree⟩ := s
    rw [spotsAt, List.mem_cons, Spot.mk.injEq, mem_spotsFrom]
    constructor
    · rintro (⟨rfl, rfl⟩ | ⟨j, p, hplace, u, hu, htree⟩)
      · exact ⟨[], by simp, rfl⟩
      · exact ⟨j :: p, by simpa using hplace, by rw [at?, children, hu]; exact htree⟩
    · rintro ⟨p, hplace, htree⟩
      cases p with
      | nil => exact .inl ⟨by simpa using hplace, (Option.some.inj htree).symm⟩
      | cons j p =>
        obtain ⟨u, hu, htree⟩ := Option.bind_eq_some_iff.1 htree
        exact .inr ⟨j, p, by simpa using hplace, u, hu, htree⟩

lemma mem_spotsFrom (place : List ℕ) : ∀ (i : ℕ) (ts : List Tree) {s : Spot}, s ∈ spotsFrom place i ts ↔
    ∃ j p, s.place = place ++ (i + j) :: p ∧ ∃ u, ts[j]? = some u ∧ u.at? p = some s.tree
  | i, [], s => by simp [spotsFrom]
  | i, t :: ts, s => by
    rw [spotsFrom, List.mem_append, mem_spotsAt, mem_spotsFrom]
    constructor
    · rintro (⟨p, hplace, htree⟩ | ⟨j, p, hplace, u, hu, htree⟩)
      · exact ⟨0, p, by simpa using hplace, t, rfl, htree⟩
      · exact ⟨j + 1, p, by rw [hplace, Nat.add_assoc, Nat.add_comm 1], u, hu, htree⟩
    · rintro ⟨j, p, hplace, u, hu, htree⟩
      cases j with
      | zero =>
        obtain rfl := Option.some.inj hu
        exact .inl ⟨p, by simpa using hplace, htree⟩
      | succ j => exact .inr ⟨j, p, by rw [hplace, Nat.add_assoc, Nat.add_comm 1], u, hu, htree⟩

end

lemma mem_plainSpots : s ∈ plainSpots t ↔ t.Has s ∧ isPlain s.tree = true := by
  rw [plainSpots, List.mem_filter, mem_spotsAt, Has]
  simp

mutual

lemma sorted_spotsAt (place : List ℕ) : ∀ t : Tree, (spotsAt place t).Pairwise fun r s => r.place < s.place
  | .leaf _ _ => List.pairwise_singleton _ _
  | .node _ cs => by
    refine List.pairwise_cons.2 ⟨fun s hs => ?_, sorted_spotsFrom place 0 cs⟩
    obtain ⟨j, p, hplace, -⟩ := (mem_spotsFrom place 0 cs).1 hs
    rw [hplace]
    exact lt_below _ p

lemma sorted_spotsFrom (place : List ℕ) : ∀ (i : ℕ) (ts : List Tree),
    (spotsFrom place i ts).Pairwise fun r s => r.place < s.place
  | _, [] => .nil
  | i, t :: ts => by
    refine List.pairwise_append.2 ⟨sorted_spotsAt _ t, sorted_spotsFrom place (i + 1) ts, fun r hr s hs => ?_⟩
    obtain ⟨p, hp, -⟩ := (mem_spotsAt _ t).1 hr
    obtain ⟨j, q, hq, -⟩ := (mem_spotsFrom place (i + 1) ts).1 hs
    rw [hp, hq, List.append_assoc]
    exact lt_of_child_lt (by omega) p q

end

lemma sorted_plainSpots (t : Tree) : (plainSpots t).Pairwise fun r s => r.place < s.place :=
  (sorted_spotsAt [] t).filter _

end Order

section Comments

def Adjacent (children : List Spot) (x : Spot × Spot) : Prop :=
  ∃ before between after, children = before ++ x.1 :: (between ++ x.2 :: after) ∧
    (∀ b ∈ between, b.tree.isNamed = false) ∧ x.2.tree.isNamed = true

def Directly (t : Tree) (x : Spot × Spot) : Prop :=
  x.1.kind = .comment ∧ ∃ parent, t.Has parent ∧ Adjacent parent.children x

lemma Directly.has_comment (h : t.Directly x) : t.Has x.1 := by
  obtain ⟨-, parent, hparent, before, between, after, hsplit, -⟩ := h
  exact hparent.child (by simp [hsplit])

lemma Directly.has_next (h : t.Directly x) : t.Has x.2 := by
  obtain ⟨-, parent, hparent, before, between, after, hsplit, -⟩ := h
  exact hparent.child (by simp [hsplit])

lemma nextNamed?_eq_some_iff {siblings : List Spot} : nextNamed? siblings = some s ↔
    ∃ between after, siblings = between ++ s :: after ∧ (∀ b ∈ between, b.tree.isNamed = false) ∧
      s.tree.isNamed = true := by
  rw [nextNamed?, List.find?_eq_some_iff_append]
  constructor
  · rintro ⟨hs, between, after, rfl, hb⟩
    exact ⟨between, after, rfl, by simpa using hb, hs⟩
  · rintro ⟨between, after, rfl, hb, hs⟩
    exact ⟨hs, between, after, rfl, by simpa using hb⟩

lemma adjacent_cons {siblings : List Spot} : Adjacent (s :: siblings) x ↔
    (x.1 = s ∧ nextNamed? siblings = some x.2) ∨ Adjacent siblings x := by
  rw [nextNamed?_eq_some_iff]
  constructor
  · rintro ⟨before, between, after, hsplit, hx⟩
    cases before with
    | nil =>
      obtain ⟨rfl, rfl⟩ := List.cons.inj hsplit
      exact .inl ⟨rfl, between, after, rfl, hx⟩
    | cons b before => exact .inr ⟨before, between, after, (List.cons.inj hsplit).2, hx⟩
  · rintro (⟨rfl, between, after, rfl, hx⟩ | ⟨before, between, after, rfl, hx⟩)
    · exact ⟨[], between, after, rfl, hx⟩
    · exact ⟨s :: before, between, after, rfl, hx⟩

lemma not_adjacent_nil : ¬ Adjacent [] x := by
  rintro ⟨before, between, after, hsplit, -⟩
  simp at hsplit

lemma mem_here {siblings : List Spot} :
    x ∈ (if t.kind = .comment then (nextNamed? siblings).toList.map fun u => ((⟨p, t⟩ : Spot), u) else []) ↔
      x.1.kind = .comment ∧ x.1 = ⟨p, t⟩ ∧ nextNamed? siblings = some x.2 := by
  obtain ⟨c, u⟩ := x
  split
  · next hk =>
    simp only [List.mem_map, Option.mem_toList, Prod.mk.injEq]
    constructor
    · rintro ⟨_, hu, rfl, rfl⟩
      exact ⟨hk, rfl, hu⟩
    · rintro ⟨-, rfl, hu⟩
      exact ⟨u, hu, rfl, rfl⟩
  · next hk =>
    refine iff_of_false List.not_mem_nil ?_
    rintro ⟨hc, rfl, -⟩
    exact hk hc

mutual

lemma mem_commentedAt (place : List ℕ) : ∀ (t : Tree) {x : Spot × Spot}, x ∈ commentedAt place t ↔
    x.1.kind = .comment ∧ ∃ parent ∈ spotsAt place t, Adjacent parent.children x
  | .leaf k a, x => by
    simp [commentedAt, spotsAt, Spot.children, children, listed, not_adjacent_nil]
  | .node k cs, x => by
    rw [commentedAt, mem_commentedFrom, spotsAt, List.exists_mem_cons_iff]
    rfl

lemma mem_commentedFrom (place : List ℕ) : ∀ (i : ℕ) (ts : List Tree) {x : Spot × Spot},
    x ∈ commentedFrom place i ts ↔ x.1.kind = .comment ∧
      (Adjacent (listed place i ts) x ∨ ∃ parent ∈ spotsFrom place i ts, Adjacent parent.children x)
  | i, [], x => by simp [commentedFrom, listed, spotsFrom, not_adjacent_nil]
  | i, t :: ts, x => by
    rw [commentedFrom, List.mem_append, List.mem_append, mem_here, mem_commentedAt, mem_commentedFrom, listed,
      adjacent_cons, spotsFrom]
    simp only [List.mem_append, or_and_right, exists_or]
    rw [← and_or_left, ← and_or_left, or_or_or_comm]

end

lemma mem_commented : x ∈ t.commented ↔ t.Directly x := by
  rw [commented, mem_commentedAt, Directly]
  simp only [mem_spotsAt, List.nil_append, exists_eq_left']
  rfl

lemma place_of_mem_commentedFrom (h : x ∈ commentedFrom place i ts) : ∃ j p, x.1.place = place ++ (i + j) :: p := by
  obtain ⟨-, hin | ⟨parent, hparent, hin⟩⟩ := (mem_commentedFrom place i ts).1 h
  · obtain ⟨before, between, after, hsplit, -⟩ := hin
    obtain ⟨j, -, hplace⟩ := mem_listed.1 (hsplit ▸ List.mem_append_right before List.mem_cons_self)
    exact ⟨j, [], hplace⟩
  · obtain ⟨before, between, after, hsplit, -⟩ := hin
    obtain ⟨k, -, hplace⟩ := mem_listed.1 (hsplit ▸ List.mem_append_right before List.mem_cons_self)
    obtain ⟨j, p, hp, -⟩ := (mem_spotsFrom place i ts).1 hparent
    exact ⟨j, p ++ [0 + k], by rw [hplace, hp, List.append_assoc, List.cons_append]⟩

lemma place_of_mem_commentedAt (h : x ∈ commentedAt place t) : ∃ j p, x.1.place = place ++ j :: p := by
  cases t with
  | leaf k a => cases h
  | node k cs =>
    obtain ⟨j, p, hplace⟩ := place_of_mem_commentedFrom h
    exact ⟨0 + j, p, hplace⟩

mutual

lemma sorted_commentedAt (place : List ℕ) : ∀ t : Tree,
    (commentedAt place t).Pairwise fun x y => x.1.place < y.1.place
  | .leaf _ _ => .nil
  | .node _ cs => sorted_commentedFrom place 0 cs

lemma sorted_commentedFrom (place : List ℕ) : ∀ (i : ℕ) (ts : List Tree),
    (commentedFrom place i ts).Pairwise fun x y => x.1.place < y.1.place
  | _, [] => .nil
  | i, t :: ts => by
    refine List.pairwise_append.2 ⟨List.pairwise_append.2 ⟨?_, sorted_commentedAt _ t, fun x hx y hy => ?_⟩,
      sorted_commentedFrom place (i + 1) ts, fun x hx y hy => ?_⟩
    · split
      · cases nextNamed? (listed place (i + 1) ts) with
        | none => exact .nil
        | some u => exact List.pairwise_singleton _ _
      · exact .nil
    · obtain ⟨j, p, hplace⟩ := place_of_mem_commentedAt hy
      rw [(mem_here.1 hx).2.1, hplace]
      exact lt_below j p
    · obtain ⟨k, q, hy⟩ := place_of_mem_commentedFrom hy
      rw [hy]
      rcases List.mem_append.1 hx with hx | hx
      · rw [(mem_here.1 hx).2.1]
        exact lt_of_child_lt (by omega) [] q
      · obtain ⟨j, p, hx⟩ := place_of_mem_commentedAt hx
        rw [hx, List.append_assoc]
        exact lt_of_child_lt (by omega) (j :: p) q

end

lemma sorted_commented (t : Tree) : t.commented.Pairwise fun x y => x.1.place < y.1.place := sorted_commentedAt [] t

end Comments

section Offsets

lemma textOfAll_split {cs : List Tree} (h : cs[i]? = some u) :
    textOfAll cs = textOfAll (cs.take i) ++ (u.text ++ textOfAll (cs.drop (i + 1))) := by
  obtain ⟨hi, rfl⟩ := List.getElem?_eq_some_iff.1 h
  rw [← textOfAll, ← textOfAll_append, ← List.drop_eq_getElem_cons hi, List.take_append_drop]

lemma length_take_le (h : i ≤ j) (ts : List Tree) :
    (textOfAll (ts.take i)).length ≤ (textOfAll (ts.take j)).length := by
  obtain ⟨more, hmore⟩ := List.take_prefix_take_left h (l := ts)
  rw [← hmore, textOfAll_append, List.length_append]
  exact Nat.le_add_right _ _

lemma offsetAt_cons_le (hp : ∀ c : Tree, c.offsetAt p ≤ c.text.length) (i : ℕ) (t : Tree) :
    t.offsetAt (i :: p) ≤ (textOfAll (t.children.take (i + 1))).length := by
  rw [offsetAt, List.take_add_one, textOfAll_append, List.length_append]
  cases t.children[i]? with
  | none => simp
  | some c => simpa [textOfAll] using hp c

lemma offsetAt_le (t : Tree) (p : List ℕ) : t.offsetAt p ≤ t.text.length := by
  induction p generalizing t with
  | nil => exact Nat.zero_le _
  | cons i p ih =>
    refine (offsetAt_cons_le ih i t).trans ?_
    cases t with
    | leaf k a => simp [children, textOfAll]
    | node k cs =>
      have hall := length_take_le (Nat.le_max_left (i + 1) cs.length) cs
      rwa [List.take_of_length_le (Nat.le_max_right _ _)] at hall

lemma offsetAt_mono {p q : List ℕ} (h : p < q) (t : Tree) : t.offsetAt p ≤ t.offsetAt q := by
  induction p generalizing t q with
  | nil => exact Nat.zero_le _
  | cons i p ih =>
    cases q with
    | nil => exact absurd h (List.not_lt_nil _)
    | cons j q =>
      rcases List.cons_lt_cons_iff.1 h with hlt | ⟨rfl, hlt⟩
      · exact (offsetAt_cons_le (offsetAt_le · p) i t).trans ((length_take_le hlt _).trans (Nat.le_add_right _ _))
      · refine Nat.add_le_add_left ?_ _
        cases t.children[i]? with
        | none => exact le_rfl
        | some c => exact ih hlt c

lemma text_of_at? (h : t.at? p = some u) : u.text <+: t.text.drop (t.offsetAt p) := by
  induction p generalizing t with
  | nil =>
    obtain rfl := Option.some.inj h
    exact List.prefix_rfl
  | cons i p ih =>
    obtain ⟨c, hc, hu⟩ := Option.bind_eq_some_iff.1 h
    cases t with
    | leaf k a => cases hc
    | node k cs =>
      have hsplit : text (.node k cs) = textOfAll (cs.take i) ++ (c.text ++ textOfAll (cs.drop (i + 1))) :=
        textOfAll_split hc
      rw [offsetAt, hc, hsplit, Option.elim_some, ← List.drop_drop, children, List.drop_left,
        List.drop_append_of_le_length (offsetAt_le c p)]
      exact (ih hu).trans (List.prefix_append _ _)

end Offsets

end Tree

end ConfigKeeper.Elixir
