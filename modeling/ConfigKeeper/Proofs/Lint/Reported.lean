import ConfigKeeper.Proofs.Lint.Marking

namespace ConfigKeeper.Lint.Rule

open Text Elixir

variable {r : Rule} {s : Source} {x y : Spot} {found : List Spot} {shown : Spot → ℕ} {P : Spot → Prop} {file : String}

lemma Earlier.irrefl : ¬ Earlier shown x x := by
  rintro (hlt | ⟨-, hlt⟩)
  · exact lt_irrefl _ hlt
  · exact lt_irrefl _ hlt

lemma earlier_iff_of_lt (hx : s.tree.Has x) (hlt : x.place < y.place) (hstop : shown x ≤ (s.tree.located x).stop)
    (hoffset : (s.tree.located y).offset ≤ shown y) :
    Earlier shown y x ↔ x.place <+: y.place ∧ shown y < shown x := by
  constructor
  · rintro (hshown | ⟨-, hplace⟩)
    · by_contra hno
      have hle := Tree.stop_le_offset hx hlt fun habove => hno ⟨habove, hshown⟩
      omega
    · exact absurd hlt hplace.not_gt
  · exact fun h => .inl h.2

lemma offset_le_firstShown (check : Check) (n : Tree.Located) : n.offset ≤ firstShown check n := Nat.le_add_right _ _

lemma firstShown_le_stop (check : Check) (n : Tree.Located) : firstShown check n ≤ n.stop := by
  refine Nat.add_le_add_left ?_ _
  cases (Check.places check n.tree.spot).head? with
  | none => exact Nat.zero_le _
  | some p => exact Tree.offsetAt_le _ _

/-- What a rule reports in a source: the nodes with a property and no others, each in one diagnostic that
spans it. -/
structure Reports (r : Rule) (s : Source) (P : Spot → Prop) (found : List Spot) : Prop where
  mem_iff : ∀ x, x ∈ found ↔ s.tree.Has x ∧ P x
  evaluate : ∀ file, r.evaluate s file = found.map fun x => r.diagnose file s.text.toList (s.tree.located x)
  spans : ∀ file, ∀ x ∈ found,
    s.nodeSpan (s.tree.located x) = .ok (r.diagnose file s.text.toList (s.tree.located x)).span
  once : ∀ file, ((r.evaluate s file).map Diagnostic.span).Nodup

lemma exists_cut_of_has (h : s.tree.Has x) : ∃ front back, s.Cut (s.tree.located x) front back :=
  Source.exists_cut (Tree.mem_nodes.2 ⟨x, h, rfl⟩)

lemma nodeSpan_eq (h : s.tree.Has x) (file : String) :
    s.nodeSpan (s.tree.located x) = .ok (r.diagnose file s.text.toList (s.tree.located x)).span := by
  obtain ⟨front, back, hcut⟩ := exists_cut_of_has h
  rw [hcut.nodeSpan, diagnose_of_cut hcut]
  rfl

lemma charSpan_eq (r : Rule) (file : String) (h : s.tree.Has x) :
    (r.diagnose file s.text.toList (s.tree.located x)).charSpan = (s.tree.located x).range := by
  obtain ⟨front, back, hcut⟩ := exists_cut_of_has h
  rw [diagnose_of_cut hcut, Diagnostic.charSpan, Tree.Located.range, Tree.Located.stop, hcut.2, List.length_append]

lemma length_eq_of_byteLength_eq {text front front' back back' : List Char} (h : text = front ++ back)
    (h' : text = front' ++ back') (hbytes : byteLength front = byteLength front') : front.length = front'.length := by
  have hfront := charIndex?_append front back
  rw [← h, hbytes, h', charIndex?_append] at hfront
  exact (Option.some.inj hfront).symm

lemma range_eq_of_span_eq (hx : s.tree.Has x) (hy : s.tree.Has y)
    (h : (r.diagnose file s.text.toList (s.tree.located x)).span =
      (r.diagnose file s.text.toList (s.tree.located y)).span) :
    (s.tree.located x).range = (s.tree.located y).range := by
  rw [← charSpan_eq r file hx, ← charSpan_eq r file hy]
  obtain ⟨front, back, hcut⟩ := exists_cut_of_has hx
  obtain ⟨front', back', hcut'⟩ := exists_cut_of_has hy
  rw [diagnose_of_cut hcut, diagnose_of_cut hcut'] at h ⊢
  obtain ⟨hstart, hstop⟩ := Prod.mk.inj h
  have hfront := length_eq_of_byteLength_eq (hcut.1.trans (List.append_assoc _ _ _))
    (hcut'.1.trans (List.append_assoc _ _ _)) hstart
  exact Prod.ext hfront (length_eq_of_byteLength_eq hcut.1 hcut'.1 hstop)

lemma Telling.reports (h : Telling r.check s.tree)
    (hflags : ∀ x, s.tree.Has x → (Check.flags r.check (s.tree.located x) = true ↔ P x)) :
    ∃ found, Reports r s P found ∧ found.Pairwise (Earlier fun x => firstShown r.check (s.tree.located x)) := by
  obtain ⟨found, hfound, hmem, hsorted⟩ := h.exists_found
  refine ⟨found, ⟨fun x => ?_, fun file => ?_, fun file x hx => nodeSpan_eq ((hmem x).1 hx).1 file, fun file => ?_⟩,
    hsorted⟩
  · rw [hmem, and_congr_right fun hx => hflags x hx]
  · rw [Rule.evaluate, hfound, List.map_map]
    rfl
  · have hnodup : found.Nodup := hsorted.imp fun hxy heq => by
      subst heq
      exact hxy.irrefl
    rw [Rule.evaluate, hfound, List.map_map, List.map_map]
    refine hnodup.map_on fun x hx y hy hspan => ?_
    obtain ⟨hx, hxflags⟩ := (hmem x).1 hx
    obtain ⟨hy, hyflags⟩ := (hmem y).1 hy
    exact h.distinct x y hx hy hxflags hyflags (range_eq_of_span_eq hx hy hspan)

end ConfigKeeper.Lint.Rule
