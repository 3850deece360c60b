import ConfigKeeper.Proofs.Diff.Hunks

namespace ConfigKeeper.Diff

section Spans

variable {cs ks rest : List Line}

lemma near_zero_iff (lines : List Line) (i : Nat) : Near 0 lines i ↔ IsChange lines i := by
  constructor
  · rintro ⟨-, j, hj, hij, hji⟩
    obtain rfl : i = j := by omega
    exact hj
  · exact fun h => h.near 0

lemma not_isChange_before (hk : ∀ l ∈ ks, l.tag = .equal) {i : Nat} (hi : i < ks.length) :
    ¬ IsChange (ks ++ rest) i := by
  rw [isChange_append, not_or]
  exact ⟨not_isChange_of_all hk, fun h => by omega⟩

lemma isChange_before_iff (hc : ∀ l ∈ cs, l.tag ≠ .equal) (hk : ∀ l ∈ ks, l.tag = .equal) {i : Nat}
    (hi : i < (cs ++ ks).length) : IsChange (cs ++ (ks ++ rest)) i ↔ i < cs.length := by
  rw [List.length_append] at hi
  rw [isChange_append]
  constructor
  · rintro (h | ⟨hle, h⟩)
    · exact h.lt
    · exact absurd h (not_isChange_before hk (by omega))
  · exact fun h => .inl (isChange_of_all hc h)

end Spans

section Blocks

def changedBlocks (ss : List Stretch) : List (List Line) := (ss.filter Stretch.isChanged).map Stretch.lines

lemma Windows.past {n : Nat} {rest : List Line} {blocks : List (List Line)} (h : Windows n rest blocks)
    (front : List Line) : Windows n ((front ++ rest).drop front.length) blocks := by
  rwa [List.drop_left]

lemma windows_changedBlocks {ss : List (Segment (List Char))} (h : Spaced ss) (i j : Nat) :
    Windows 0 ((stretchesFrom i j ss).flatMap Stretch.lines) (changedBlocks (stretchesFrom i j ss)) := by
  -- The kept lines behind a changed stretch are there, so the next run starts past its end.
  induction h generalizing i j with
  | nil => exact .none fun i hi => absurd hi.lt (by simp [stretchesFrom])
  | @kept xs r _ _ ih =>
    have hk : ∀ l ∈ keptLines i j xs, l.tag = .equal := fun l => tag_of_mem_kept
    have hrest := (ih (i + xs.length) (j + xs.length)).past (keptLines i j xs)
    refine hrest.behind (fun k hlt hchange => ?_) fun k hlt hnear => ?_
    · exact absurd hchange (not_isChange_before hk hlt)
    · exact not_isChange_before hk hlt ((near_zero_iff _ _).1 hnear)
  | @last xs ys hgap =>
    have hc : ∀ l ∈ (stretchOf i j (.changed xs ys)).lines, l.tag ≠ .equal := fun l => tag_of_mem_changed
    refine .front (List.length_pos_iff.2 (changed_ne_nil hgap.ne_nil)) fun k => ?_
    change Near 0 (_ ++ []) k ↔ _
    rw [near_zero_iff, List.append_nil]
    exact ⟨IsChange.lt, isChange_of_all hc⟩
  | @changed xs ys zs r hgap hkept _ ih =>
    have hc : ∀ l ∈ (stretchOf i j (.changed xs ys)).lines, l.tag ≠ .equal := fun l => tag_of_mem_changed
    have hk : ∀ l ∈ keptLines (i + xs.length) (j + ys.length) zs, l.tag = .equal := fun l => tag_of_mem_kept
    have hpos : 0 < (keptLines (i + xs.length) (j + ys.length) zs).length := by
      simpa [keptLines, List.length_pos_iff] using hkept
    have hrest := (ih (i + xs.length + zs.length) (j + ys.length + zs.length)).past
      ((stretchOf i j (.changed xs ys)).lines ++ keptLines (i + xs.length) (j + ys.length) zs)
    rw [List.append_assoc] at hrest
    refine .cons hrest (List.length_pos_iff.2 (changed_ne_nil hgap.ne_nil)) ?_ (fun k hlt _ => hlt) fun k hlt => ?_
    · rw [List.length_append]
      omega
    · rw [near_zero_iff]
      exact isChange_before_iff hc hk hlt

theorem exists_run_iff (old new : List Char) (run : List Line) :
    (∃ s, MaximalRun (IsChange (script old new)) s ∧ s.slice (script old new) = run) ↔
      ∃ st ∈ stretches old new, st.isChanged = true ∧ st.lines = run := by
  obtain ⟨spans, hslices, hspans⟩ := windows_changedBlocks (spaced_align (Text.lines old) (Text.lines new)) 0 0
  have hruns := hspans.congr fun i => (near_zero_iff _ i).symm
  have hmem : run ∈ changedBlocks (stretches old new) ↔ ∃ s ∈ spans, s.slice (script old new) = run := by
    rw [stretches, segmentsOf, hslices]
    exact List.mem_map
  simp only [changedBlocks, List.mem_map, List.mem_filter, and_assoc] at hmem
  rw [hmem]
  exact exists_congr fun s => and_congr_left' (hruns.mem_iff s).symm

end Blocks

/-- In each run of changed lines the removed lines come before the added ones, and no line is among
both. -/
theorem run_disjoint {old new : List Char} {s : Span} (h : MaximalRun (IsChange (script old new)) s) :
    ∃ removed added, s.slice (script old new) = removed ++ added ∧ (∀ l ∈ removed, l.tag = .delete) ∧
      (∀ l ∈ added, l.tag = .insert) ∧ ∀ l ∈ removed, ∀ m ∈ added, l.value ≠ m.value := by
  obtain ⟨st, hst, hchanged, hlines⟩ := (exists_run_iff old new _).1 ⟨s, h, rfl⟩
  obtain ⟨seg, hseg, i, j, rfl⟩ := mem_stretchesFrom hst
  cases seg with
  | kept xs => cases hchanged
  | changed xs ys =>
    -- a changed stretch is a gap of the alignment, whose sides have no item in common
    have hdisjoint := ((spaced_align _ _).isGap_of_mem hseg).disjoint
    refine ⟨_, _, hlines.symm, fun l => tag_of_mem_deleted, fun l => tag_of_mem_inserted, fun l hl m hm he => ?_⟩
    obtain ⟨⟨x, _⟩, hx, rfl⟩ := List.mem_map.1 hl
    obtain ⟨⟨y, _⟩, hy, rfl⟩ := List.mem_map.1 hm
    have hxs : x ∈ xs := List.fst_mem_of_mem_zipIdx hx
    have hys : y ∈ ys := List.fst_mem_of_mem_zipIdx hy
    obtain rfl : x = y := he
    exact hdisjoint hxs hys

theorem run_disjoint_between : let lines := script "x\na\nx\n".toList "x\nb\na b\nx\n".toList
    MaximalRun (IsChange lines) ⟨1, 4⟩ ∧
      ∃ removed added, (⟨1, 4⟩ : Span).slice lines = removed ++ added ∧ (∀ l ∈ removed, l.tag = .delete) ∧
        (∀ l ∈ added, l.tag = .insert) ∧ ∀ l ∈ removed, ∀ m ∈ added, l.value ≠ m.value := by
  intro lines
  have htags : lines.map Line.tag = [.equal, .delete, .insert, .insert, .equal] := by decide +kernel
  have hchange (i : Nat) : IsChange lines i ↔ i = 1 ∨ i = 2 ∨ i = 3 := by
    have hi : IsChange lines i ↔ ∃ t, (lines.map Line.tag)[i]? = some t ∧ t ≠ .equal := by
      simp [IsChange, List.getElem?_map]
    rw [hi, htags]
    rcases i with _ | _ | _ | _ | _ | i <;> simp
  have hrun : MaximalRun (IsChange lines) ⟨1, 4⟩ := by
    refine ⟨by decide, fun i hi => ?_, fun i hi => ?_, ?_⟩
    · obtain ⟨h₁, h₄⟩ := hi
      rw [hchange]
      simp only at h₁ h₄
      omega
    · rw [hchange]
      simp only at hi
      omega
    · rw [hchange]
      decide
  exact ⟨hrun, run_disjoint hrun⟩

end ConfigKeeper.Diff
