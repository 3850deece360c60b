import ConfigKeeper.Proofs.Diff.Pieces
import ConfigKeeper.Proofs.Diff.Runs

namespace ConfigKeeper.Diff

section Lines

variable {l removed added : Line} {old new : List Char}

/-- The ranges of a line's emphasis stand apart in it, and its pieces, emphasized there, make it up in turn. -/
structure WellMarked (l : Line) : Prop where
  within : ∀ r ∈ l.emphasis, 0 ≤ r.1 ∧ r.1 < r.2 ∧ r.2 ≤ l.value.length
  apart : l.emphasis.Pairwise fun r s => r.2 < s.1
  marked : (l.pieces.filter Piece.emphasized).map Piece.text = l.emphasis.map fun r => Text.slice l.value r.1 r.2
  whole : wholeText l.pieces = l.value
  alternate : Alternate l.pieces

lemma Marks.pieces {ps : List Piece} (h : Marks ps l.value l.emphasis) : l.pieces = joined [] ps := by
  have hpieces := piecesFrom_emphasizedRanges [] [] ps
  rw [Line.pieces, h.ranges, ← h.whole]
  simpa using hpieces

lemma Marks.wellMarked {ps : List Piece} (h : Marks ps l.value l.emphasis) : WellMarked l := by
  refine ⟨?_, ?_, marked_piecesFrom l.value 0 l.emphasis, ?_, ?_⟩
  · intro r hr
    rw [h.ranges, List.mem_filter] at hr
    obtain ⟨hstart, hstop⟩ := emphasizedRanges_within 0 ps r hr.1
    rw [h.whole] at hstop
    have hlt : r.1 < r.2 := by simpa using hr.2
    omega
  · rw [h.ranges]
    exact (h.parted.apart 0).filter _
  · rw [h.pieces, wholeText_joined, List.nil_append, h.whole]
  · rw [h.pieces]
    exact (h.parted.alternate []).1

lemma marks_nil (value : List Char) : Marks [⟨false, value⟩] value [] :=
  ⟨by simp, .plain .nil, rfl⟩

def tagged (t : Tag) (lines : List Line) : List Line := lines.filter fun l => l.tag = t

def Paired (lines : List Line) (removed added : Line) : Prop :=
  ∃ (s : Span) (k : Nat), MaximalRun (IsChange lines) s ∧ (tagged .delete (s.slice lines))[k]? = some removed ∧
    (tagged .insert (s.slice lines))[k]? = some added

lemma tagged_append (t : Tag) (xs ys : List Line) : tagged t (xs ++ ys) = tagged t xs ++ tagged t ys :=
  List.filter_append ..

lemma tagged_of_eq {t : Tag} {lines : List Line} (h : ∀ l ∈ lines, l.tag = t) : tagged t lines = lines :=
  List.filter_eq_self.2 fun l hl => by simp [h l hl]

lemma tagged_of_ne {t : Tag} {lines : List Line} (h : ∀ l ∈ lines, l.tag ≠ t) : tagged t lines = [] :=
  List.filter_eq_nil_iff.2 fun l hl => by simp [h l hl]

lemma tagged_changed (i j : Nat) (xs ys : List (List Char)) :
    tagged .delete (stretchOf i j (.changed xs ys)).lines =
        deletedLines i xs ((List.zipWith inlineEmphasis xs ys).map Prod.fst) ∧
      tagged .insert (stretchOf i j (.changed xs ys)).lines =
        insertedLines j ys ((List.zipWith inlineEmphasis xs ys).map Prod.snd) := by
  rw [stretchOf, tagged_append, tagged_append]
  constructor
  · rw [tagged_of_eq fun l hl => tag_of_mem_deleted hl, tagged_of_ne fun l hl => by simp [tag_of_mem_inserted hl],
      List.append_nil]
  · rw [tagged_of_ne fun l hl => by simp [tag_of_mem_deleted hl], tagged_of_eq fun l hl => tag_of_mem_inserted hl,
      List.nil_append]

lemma getElem?_deletedLines (i k : Nat) (items : List (List Char)) (emphasis : List (List Range)) :
    (deletedLines i items emphasis)[k]? =
      items[k]?.map fun s => ⟨.delete, some (i + k : Nat), none, s, emphasis[k]?.getD []⟩ := by
  simp [deletedLines, List.getElem?_zipIdx, Function.comp_def]

lemma getElem?_insertedLines (j k : Nat) (items : List (List Char)) (emphasis : List (List Range)) :
    (insertedLines j items emphasis)[k]? =
      items[k]?.map fun s => ⟨.insert, none, some (j + k : Nat), s, emphasis[k]?.getD []⟩ := by
  simp [insertedLines, List.getElem?_zipIdx, Function.comp_def]

lemma paired_iff : Paired (script old new) removed added ↔ ∃ (i j : Nat) (xs ys : List (List Char)) (k : Nat),
    stretchOf i j (.changed xs ys) ∈ stretches old new ∧ ∃ x y, xs[k]? = some x ∧ ys[k]? = some y ∧
      removed = ⟨.delete, some (i + k : Nat), none, x, (inlineEmphasis x y).1⟩ ∧
      added = ⟨.insert, none, some (j + k : Nat), y, (inlineEmphasis x y).2⟩ := by
  constructor
  · rintro ⟨s, k, hs, hremoved, hadded⟩
    obtain ⟨st, hst, hchanged, hlines⟩ := (exists_run_iff old new _).1 ⟨s, hs, rfl⟩
    obtain ⟨seg, -, i, j, rfl⟩ := mem_stretchesFrom hst
    cases seg with
    | kept xs => cases hchanged
    | changed xs ys =>
      rw [← hlines, (tagged_changed i j xs ys).1, getElem?_deletedLines] at hremoved
      rw [← hlines, (tagged_changed i j xs ys).2, getElem?_insertedLines] at hadded
      obtain ⟨x, hx, rfl⟩ := Option.map_eq_some_iff.1 hremoved
      obtain ⟨y, hy, rfl⟩ := Option.map_eq_some_iff.1 hadded
      refine ⟨i, j, xs, ys, k, hst, x, y, hx, hy, ?_, ?_⟩ <;> simp [List.getElem?_zipWith, hx, hy]
  · rintro ⟨i, j, xs, ys, k, hst, x, y, hx, hy, rfl, rfl⟩
    obtain ⟨s, hs, hlines⟩ := (exists_run_iff old new _).2 ⟨_, hst, rfl, rfl⟩
    refine ⟨s, k, hs, ?_, ?_⟩
    · rw [hlines, (tagged_changed i j xs ys).1, getElem?_deletedLines]
      simp [List.getElem?_zipWith, hx, hy]
    · rw [hlines, (tagged_changed i j xs ys).2, getElem?_insertedLines]
      simp [List.getElem?_zipWith, hx, hy]

lemma marks_of_paired (h : Paired (script old new) removed added) : ∃ ps qs, plainText ps = plainText qs ∧
    Marks ps removed.value removed.emphasis ∧ Marks qs added.value added.emphasis := by
  obtain ⟨i, j, xs, ys, k, -, x, y, -, -, rfl, rfl⟩ := paired_iff.1 h
  exact marks_inlineEmphasis x y

lemma exists_of_emphasis {xs ys : List (List Char)} {side : List Range × List Range → List Range} {k : Nat}
    (hne : ((List.zipWith inlineEmphasis xs ys).map side)[k]?.getD [] ≠ []) :
    ∃ x y, xs[k]? = some x ∧ ys[k]? = some y ∧
      ((List.zipWith inlineEmphasis xs ys).map side)[k]?.getD [] = side (inlineEmphasis x y) := by
  rw [List.getElem?_map, List.getElem?_zipWith] at hne ⊢
  cases hx : xs[k]? with
  | none => simp [hx] at hne
  | some x =>
    cases hy : ys[k]? with
    | none => simp [hy] at hne
    | some y => exact ⟨x, y, rfl, rfl, rfl⟩

lemma exists_paired (hl : l ∈ script old new) (hne : l.emphasis ≠ []) :
    ∃ m, Paired (script old new) l m ∨ Paired (script old new) m l := by
  obtain ⟨st, hst, hl⟩ := List.mem_flatMap.1 hl
  obtain ⟨seg, -, i, j, rfl⟩ := mem_stretchesFrom hst
  cases seg with
  | kept xs =>
    obtain ⟨_, -, rfl⟩ := List.mem_map.1 hl
    exact absurd rfl hne
  | changed xs ys =>
    rcases List.mem_append.1 hl with hl | hl
    · obtain ⟨k, hk⟩ := List.getElem?_of_mem hl
      rw [getElem?_deletedLines] at hk
      obtain ⟨x, hx, rfl⟩ := Option.map_eq_some_iff.1 hk
      obtain ⟨x', y, hx', hy, heq⟩ := exists_of_emphasis hne
      obtain rfl : x' = x := Option.some.inj (hx'.symm.trans hx)
      exact ⟨_, .inl (paired_iff.2 ⟨i, j, xs, ys, k, hst, x', y, hx, hy, by rw [heq], rfl⟩)⟩
    · obtain ⟨k, hk⟩ := List.getElem?_of_mem hl
      rw [getElem?_insertedLines] at hk
      obtain ⟨y, hy, rfl⟩ := Option.map_eq_some_iff.1 hk
      obtain ⟨x, y', hx, hy', heq⟩ := exists_of_emphasis hne
      obtain rfl : y' = y := Option.some.inj (hy'.symm.trans hy)
      exact ⟨_, .inr (paired_iff.2 ⟨i, j, xs, ys, k, hst, x, y', hx, hy, rfl, by rw [heq]⟩)⟩

lemma wellMarked_of_mem (hl : l ∈ script old new) : WellMarked l := by
  by_cases hne : l.emphasis = []
  · exact (hne ▸ marks_nil l.value).wellMarked
  · obtain ⟨m, h | h⟩ := exists_paired hl hne
    · obtain ⟨ps, _, -, hps, -⟩ := marks_of_paired h
      exact hps.wellMarked
    · obtain ⟨_, qs, -, -, hqs⟩ := marks_of_paired h
      exact hqs.wellMarked

/-- The emphasis of each line marks pieces of it in turn. Two lines at the same place of a run are the same text
but for what is emphasized, and a line that has no other one at its place has no emphasis. -/
theorem emphasis_sound (old new : List Char) :
    (∀ l ∈ script old new, WellMarked l) ∧
      (∀ removed added, Paired (script old new) removed added →
        plainText removed.pieces = plainText added.pieces) ∧
      ∀ l ∈ script old new, (∀ m, ¬ Paired (script old new) l m ∧ ¬ Paired (script old new) m l) →
        l.emphasis = [] := by
  refine ⟨fun l => wellMarked_of_mem, fun removed added h => ?_, fun l hl hno => ?_⟩
  · obtain ⟨ps, qs, heq, hps, hqs⟩ := marks_of_paired h
    rw [hps.pieces, hqs.pieces, plainText_joined, plainText_joined, heq]
  · by_contra hne
    obtain ⟨m, h | h⟩ := exists_paired hl hne
    · exact (hno m).1 h
    · exact (hno m).2 h

end Lines

end ConfigKeeper.Diff
