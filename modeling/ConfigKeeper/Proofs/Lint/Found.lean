import ConfigKeeper.Lint.Rule
import ConfigKeeper.Proofs.Elixir.Nodes

/-!
What a rule finds: every node that its check flags, in the order in which the text first shows them, each
stretch once.
-/

namespace ConfigKeeper.Elixir.Tree.Located

variable {n : Located} {ns : List Located} {seen : List (ℕ × ℕ)}

lemma unseen_sublist (seen : List (ℕ × ℕ)) (ns : List Located) : (unseen seen ns).Sublist ns := by
  induction ns generalizing seen with
  | nil => exact .slnil
  | cons n ns ih =>
    rw [unseen]
    split
    · exact (ih seen).cons n
    · exact (ih (n.range :: seen)).cons_cons n

lemma range_of_mem_unseen (h : n ∈ unseen seen ns) : n.range ∉ seen := by
  induction ns generalizing seen with
  | nil => cases h
  | cons m ns ih =>
    rw [unseen] at h
    split at h
    · exact ih h
    · next hm =>
      rcases List.mem_cons.1 h with rfl | h
      · exact hm
      · exact fun hn => ih h (List.mem_cons_of_mem _ hn)

lemma exists_mem_unseen (h : n ∈ ns) (hn : n.range ∉ seen) : ∃ m ∈ unseen seen ns, m.range = n.range := by
  induction ns generalizing seen with
  | nil => cases h
  | cons m ns ih =>
    rw [unseen]
    split
    · next hm =>
      rcases List.mem_cons.1 h with rfl | h
      · exact absurd hm hn
      · exact ih h hn
    · by_cases hrange : n.range = m.range
      · exact ⟨m, List.mem_cons_self, hrange.symm⟩
      · have hnew : n.range ∉ m.range :: seen := by simp [hn, hrange]
        obtain ⟨k, hk, hkn⟩ := ih ((List.mem_cons.1 h).resolve_left fun he => hrange (he ▸ rfl)) hnew
        exact ⟨k, List.mem_cons_of_mem m hk, hkn⟩

end ConfigKeeper.Elixir.Tree.Located

namespace ConfigKeeper.Lint.Rule

open Elixir Tree.Located

variable {r : Rule} {s : Source} {x y : Spot} {m n : Tree.Located} {ms : List Match} {a : Match} {length : ℕ}

section Order

lemma mem_inOrder : a ∈ inOrder length ms ↔ a ∈ ms ∧ a.shown ≤ length := by
  simp only [inOrder, List.mem_flatMap, List.mem_range, List.mem_filter, decide_eq_true_eq]
  constructor
  · rintro ⟨i, hi, ha, rfl⟩
    exact ⟨ha, by omega⟩
  · rintro ⟨ha, hle⟩
    exact ⟨a.shown, by omega, ha, rfl⟩

lemma sorted_inOrder {R : Match → Match → Prop} (h : ms.Pairwise R) :
    (inOrder length ms).Pairwise fun a b => a.shown < b.shown ∨ a.shown = b.shown ∧ R a b := by
  have hshown {i : ℕ} {a : Match} (ha : a ∈ ms.filter fun m => m.shown = i) : a.shown = i := by
    simpa using (List.mem_filter.1 ha).2
  refine List.pairwise_flatMap.2 ⟨fun i _ => ?_, List.pairwise_lt_range.imp fun hlt a ha b hb => .inl ?_⟩
  · exact (h.filter _).imp_of_mem fun ha hb hab => .inr ⟨(hshown ha).trans (hshown hb).symm, hab⟩
  · rwa [hshown ha, hshown hb]

lemma pairwise_unseen {first : Tree.Located → ℕ} {R : Tree.Located → Tree.Located → Prop} {seen : List (ℕ × ℕ)}
    (hsorted : ms.Pairwise fun a b => a.shown < b.shown ∨ a.shown = b.shown ∧ (a.node = b.node ∨ R a.node b.node))
    (hfirst : ∀ a ∈ ms, first a.node ≤ a.shown)
    (hmatch : ∀ a ∈ ms, a.node.range ∉ seen → ∃ b ∈ ms, b.node = a.node ∧ b.shown = first a.node) :
    (unseen seen (ms.map Match.node)).Pairwise fun m n => first m < first n ∨ first m = first n ∧ R m n := by
  induction ms generalizing seen with
  | nil => exact .nil
  | cons a ms ih =>
    obtain ⟨ha, hsorted⟩ := List.pairwise_cons.1 hsorted
    obtain ⟨hle, hfirst⟩ := List.forall_mem_cons.1 hfirst
    rw [List.map_cons, unseen]
    split
    · next hseen =>
      refine ih hsorted hfirst fun c hc hnew => ?_
      obtain ⟨b, hb, hnode, hshown⟩ := hmatch c (List.mem_cons_of_mem a hc) hnew
      refine ⟨b, (List.mem_cons.1 hb).resolve_left fun heq => hnew ?_, hnode, hshown⟩
      rwa [← hnode, heq]
    · -- the first match of a node that is new here is not the one just kept
      have hrest : ∀ c ∈ ms, c.node.range ∉ a.node.range :: seen →
          ∃ b ∈ ms, b.node = c.node ∧ b.shown = first c.node := by
        intro c hc hnew
        rw [List.mem_cons, not_or] at hnew
        obtain ⟨b, hb, hnode, hshown⟩ := hmatch c (List.mem_cons_of_mem a hc) hnew.2
        refine ⟨b, (List.mem_cons.1 hb).resolve_left fun heq => hnew.1 ?_, hnode, hshown⟩
        rw [← hnode, heq]
      refine List.pairwise_cons.2 ⟨fun n hn => ?_, ih hsorted hfirst hrest⟩
      obtain ⟨c, hc, rfl⟩ := List.mem_map.1 ((unseen_sublist _ _).subset hn)
      have hnew := range_of_mem_unseen hn
      obtain ⟨b, hb, hnode, hshown⟩ := hrest c hc hnew
      rw [← hshown, ← hnode]
      rcases ha b hb with hlt | ⟨heq, hsame | hR⟩
      · exact .inl (hle.trans_lt hlt)
      · exact absurd (List.mem_cons.2 (.inl (by rw [hsame, hnode]))) hnew
      · rcases (hle.trans_eq heq).lt_or_eq with hlt | heq
        · exact .inl hlt
        · exact .inr ⟨heq, hR⟩

end Order

section Found

lemma mem_matchesIn : a ∈ r.matchesIn s ↔ a.node ∈ s.tree.nodes ∧ Check.flags r.check a.node = true ∧
    ∃ p ∈ Check.places r.check a.node.tree.spot, a.shown = a.node.offset + a.node.tree.offsetAt p := by
  obtain ⟨node, shown⟩ := a
  simp only [matchesIn, List.mem_flatMap, List.mem_filter, List.mem_map, Match.mk.injEq]
  constructor
  · rintro ⟨n, ⟨hn, hflags⟩, p, hp, rfl, rfl⟩
    exact ⟨hn, hflags, p, hp, rfl⟩
  · rintro ⟨hn, hflags, p, hp, rfl⟩
    exact ⟨node, ⟨hn, hflags⟩, p, hp, rfl, rfl⟩

lemma flagged_of_mem_found (h : n ∈ r.found s) : n ∈ s.tree.nodes ∧ Check.flags r.check n = true := by
  obtain ⟨a, ha, rfl⟩ := List.mem_map.1 ((unseen_sublist _ _).subset h)
  obtain ⟨hn, hflags, -⟩ := mem_matchesIn.1 (mem_inOrder.1 ha).1
  exact ⟨hn, hflags⟩

def Precedes (t : Tree) (m n : Tree.Located) : Prop :=
  ∃ x y, (t.Has x ∧ t.located x = m) ∧ (t.Has y ∧ t.located y = n) ∧ x.place < y.place

lemma pairwise_matchesIn (r : Rule) (s : Source) :
    (r.matchesIn s).Pairwise fun a b => a.node = b.node ∨ Precedes s.tree a.node b.node := by
  have hnodes : s.tree.nodes.Pairwise (Precedes s.tree) := by
    rw [Tree.nodes_eq, List.pairwise_map]
    refine (Tree.sorted_spotsAt [] s.tree).imp_of_mem fun {x y} hx hy hlt => ⟨x, y, ⟨?_, rfl⟩, ⟨?_, rfl⟩, hlt⟩
    · simpa [Tree.mem_spotsAt, Tree.Has] using hx
    · simpa [Tree.mem_spotsAt, Tree.Has] using hy
  refine List.pairwise_flatMap.2 ⟨fun n _ => ?_, (hnodes.filter _).imp fun hmn a ha b hb => ?_⟩
  · exact List.pairwise_map.2 (List.pairwise_of_forall fun _ _ => .inl rfl)
  · obtain ⟨p, -, rfl⟩ := List.mem_map.1 ha
    obtain ⟨q, -, rfl⟩ := List.mem_map.1 hb
    exact .inr hmn

def firstShown (check : Check) (n : Tree.Located) : ℕ :=
  n.offset + (Check.places check n.tree.spot).head?.elim 0 n.tree.offsetAt

/-- One node is shown before another one, or both at once where it stands before the other. -/
def Earlier (shown : Spot → ℕ) (x y : Spot) : Prop := shown x < shown y ∨ shown x = shown y ∧ x.place < y.place

/-- The text shows each node that a check flags, and no two of them cover one stretch. -/
structure Telling (check : Check) (t : Tree) : Prop where
  shown : ∀ x, t.Has x → Check.flags check (t.located x) = true → Check.places check x.tree.spot ≠ []
  sorted : ∀ x, t.Has x → Check.flags check (t.located x) = true →
    (Check.places check x.tree.spot).Pairwise (· ≤ ·)
  distinct : ∀ x y, t.Has x → t.Has y → Check.flags check (t.located x) = true →
    Check.flags check (t.located y) = true → (t.located x).range = (t.located y).range → x = y

variable (h : Telling r.check s.tree)

include h

lemma Telling.firstShown_le (ha : a ∈ r.matchesIn s) : firstShown r.check a.node ≤ a.shown := by
  obtain ⟨hnode, hflags, p, hp, hshown⟩ := mem_matchesIn.1 ha
  obtain ⟨x, hx, hlocated⟩ := Tree.mem_nodes.1 hnode
  have hsorted := h.sorted x hx (hlocated ▸ hflags)
  rw [firstShown, hshown, ← hlocated]
  rw [← hlocated] at hp
  refine Nat.add_le_add_left ?_ _
  change p ∈ Check.places r.check x.tree.spot at hp
  change (Check.places r.check x.tree.spot).head?.elim 0 x.tree.offsetAt ≤ x.tree.offsetAt p
  cases hplaces : Check.places r.check x.tree.spot with
  | nil => exact Nat.zero_le _
  | cons q qs =>
    rw [hplaces] at hp hsorted
    rcases List.mem_cons.1 hp with rfl | hp
    · exact le_rfl
    · rcases (List.rel_of_pairwise_cons hsorted hp).lt_or_eq with hlt | rfl
      · exact Tree.offsetAt_mono hlt _
      · exact le_rfl

lemma Telling.exists_first (hn : n ∈ s.tree.nodes) (hflags : Check.flags r.check n = true) :
    ∃ a ∈ inOrder s.text.length (r.matchesIn s), a.node = n ∧ a.shown = firstShown r.check n := by
  obtain ⟨x, hx, rfl⟩ := Tree.mem_nodes.1 hn
  cases hplaces : Check.places r.check x.tree.spot with
  | nil => exact absurd hplaces (h.shown x hx hflags)
  | cons p ps =>
    have hfirst : firstShown r.check (s.tree.located x) = s.tree.offsetAt x.place + x.tree.offsetAt p := by
      change s.tree.offsetAt x.place + (Check.places r.check x.tree.spot).head?.elim 0 x.tree.offsetAt = _
      rw [hplaces]
      rfl
    have hlength : s.tree.offsetAt x.place + x.tree.offsetAt p ≤ s.text.length := by
      rw [← String.length_toList, ← s.spells]
      exact (Nat.add_le_add_left (Tree.offsetAt_le _ _) _).trans (Tree.stop_le hx)
    refine ⟨⟨s.tree.located x, s.tree.offsetAt x.place + x.tree.offsetAt p⟩,
      mem_inOrder.2 ⟨mem_matchesIn.2 ⟨hn, hflags, p, ?_, rfl⟩, hlength⟩, rfl, hfirst.symm⟩
    exact hplaces ▸ List.mem_cons_self

lemma Telling.mem_found : n ∈ r.found s ↔ n ∈ s.tree.nodes ∧ Check.flags r.check n = true := by
  refine ⟨flagged_of_mem_found, fun ⟨hn, hflags⟩ => ?_⟩
  obtain ⟨a, ha, rfl, -⟩ := h.exists_first hn hflags
  obtain ⟨m, hm, hrange⟩ := exists_mem_unseen (List.mem_map_of_mem (f := Match.node) ha) List.not_mem_nil
  obtain ⟨hmnode, hmflags⟩ := flagged_of_mem_found hm
  obtain ⟨x, hx, rfl⟩ := Tree.mem_nodes.1 hmnode
  obtain ⟨y, hy, hlocated⟩ := Tree.mem_nodes.1 hn
  rw [← hlocated] at hrange hflags ⊢
  rwa [h.distinct y x hy hx hflags hmflags hrange.symm]

lemma Telling.pairwise_found : (r.found s).Pairwise fun m n => firstShown r.check m < firstShown r.check n ∨
    firstShown r.check m = firstShown r.check n ∧ Precedes s.tree m n := by
  refine pairwise_unseen (sorted_inOrder (pairwise_matchesIn r s))
    (fun a ha => h.firstShown_le (mem_inOrder.1 ha).1) fun a ha _ => ?_
  obtain ⟨hnode, hflags, -⟩ := mem_matchesIn.1 (mem_inOrder.1 ha).1
  exact h.exists_first hnode hflags

lemma Telling.exists_found : ∃ found : List Spot, r.found s = found.map s.tree.located ∧
    (∀ x, x ∈ found ↔ s.tree.Has x ∧ Check.flags r.check (s.tree.located x) = true) ∧
    found.Pairwise (Earlier fun x => firstShown r.check (s.tree.located x)) := by
  have hspots : r.found s ∈ Set.range (List.map fun x : {x : Spot // s.tree.Has x ∧
      Check.flags r.check (s.tree.located x) = true} => s.tree.located x.1) := by
    rw [Set.range_list_map]
    intro n hn
    obtain ⟨hnode, hflags⟩ := flagged_of_mem_found hn
    obtain ⟨x, hx, rfl⟩ := Tree.mem_nodes.1 hnode
    exact ⟨⟨x, hx, hflags⟩, rfl⟩
  obtain ⟨found, heq⟩ := hspots
  refine ⟨found.map Subtype.val, by simp [← heq], fun x => ⟨fun hx => ?_, fun ⟨hx, hflags⟩ => ?_⟩, ?_⟩
  · obtain ⟨y, -, rfl⟩ := List.mem_map.1 hx
    exact y.2
  · have hmem := h.mem_found.2 ⟨Tree.mem_nodes.2 ⟨x, hx, rfl⟩, hflags⟩
    rw [← heq] at hmem
    obtain ⟨⟨y, hy, hyflags⟩, hmem, hlocated⟩ := List.mem_map.1 hmem
    exact List.mem_map.2 ⟨_, hmem, h.distinct y x hy hx hyflags hflags (by rw [hlocated])⟩
  · have hsorted := h.pairwise_found
    rw [← heq, List.pairwise_map] at hsorted
    refine List.pairwise_map.2 (hsorted.imp fun {x y} hxy => hxy.imp_right ?_)
    rintro ⟨hshown, x', y', ⟨hx', hlx⟩, ⟨hy', hly⟩, hlt⟩
    obtain rfl := h.distinct x x' x.2.1 hx' x.2.2 (hlx ▸ x.2.2) (by rw [hlx])
    obtain rfl := h.distinct y y' y.2.1 hy' y.2.2 (hly ▸ y.2.2) (by rw [hly])
    exact ⟨hshown, hlt⟩

end Found

end ConfigKeeper.Lint.Rule
