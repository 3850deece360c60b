import ConfigKeeper.Diff.Script
import ConfigKeeper.Proofs.Diff.Gaps

/-!
Pieces of a line. A line that replaces another one is emphasized where an alignment of the two has
its gaps, so its pieces are the stretches of that alignment, and the plain ones are what the two
lines share.
-/

namespace ConfigKeeper.Diff

section Ranges

variable {r : Range} {rs : List Range}

lemma coalesce_of_gaps (h : (r :: rs).Pairwise fun p q => p.2 < q.1) : coalesce r rs = r :: rs := by
  induction rs generalizing r with
  | nil => rfl
  | cons s rs ih =>
    obtain ⟨hr, hrest⟩ := List.pairwise_cons.1 h
    have hgap : ¬ s.1 ≤ r.2 := not_le.2 (hr s List.mem_cons_self)
    rw [coalesce, if_neg hgap, ih hrest]

lemma mergeRanges_of_gaps (h : (rs.filter fun r => r.1 < r.2).Pairwise fun p q => p.2 < q.1) :
    mergeRanges rs = rs.filter fun r => r.1 < r.2 := by
  have hsorted : (rs.filter fun r => r.1 < r.2).Pairwise fun p q => Range.le p q = true := by
    refine h.imp_of_mem fun {p q} hp _ hpq => ?_
    have hlt : p.1 < p.2 := by simpa using (List.mem_filter.1 hp).2
    simp only [Range.le, Bool.or_eq_true, decide_eq_true_eq]
    exact .inl (hlt.trans hpq)
  rw [mergeRanges, List.mergeSort_of_pairwise hsorted]
  cases hrs : rs.filter fun r => r.1 < r.2 with
  | nil => rfl
  | cons r rest => exact coalesce_of_gaps (hrs ▸ h)

end Ranges

section Pieces

variable {pending : List Char} {ps : List Piece}

def wholeText (ps : List Piece) : List Char := ps.flatMap Piece.text

def plainText (ps : List Piece) : List Char := wholeText (ps.filter fun p => !p.emphasized)

def emphasizedRanges : Int → List Piece → List Range
  | _, [] => []
  | i, p :: rest =>
    let stop := i + p.text.length
    if p.emphasized then (i, stop) :: emphasizedRanges stop rest else emphasizedRanges stop rest

inductive Parted : List Piece → Prop
  | nil : Parted []
  | plain {text : List Char} {ps : List Piece} (h : Parted ps) : Parted (⟨false, text⟩ :: ps)
  | last (text : List Char) : Parted [⟨true, text⟩]
  | marked {text next : List Char} {ps : List Piece} (hne : next ≠ []) (h : Parted ps) :
      Parted (⟨true, text⟩ :: ⟨false, next⟩ :: ps)

@[simp] lemma wholeText_nil : wholeText [] = [] := rfl

@[simp] lemma wholeText_cons (p : Piece) (ps : List Piece) : wholeText (p :: ps) = p.text ++ wholeText ps := rfl

@[simp] lemma wholeText_append (ps qs : List Piece) : wholeText (ps ++ qs) = wholeText ps ++ wholeText qs :=
  List.flatMap_append

@[simp] lemma plainText_nil : plainText [] = [] := rfl

@[simp] lemma plainText_plain (text : List Char) (ps : List Piece) :
    plainText (⟨false, text⟩ :: ps) = text ++ plainText ps := rfl

@[simp] lemma plainText_emphasized (text : List Char) (ps : List Piece) :
    plainText (⟨true, text⟩ :: ps) = plainText ps := rfl

@[simp] lemma plainText_append (ps qs : List Piece) : plainText (ps ++ qs) = plainText ps ++ plainText qs := by
  simp [plainText]

lemma emphasizedRanges_within (i : Int) (ps : List Piece) :
    ∀ r ∈ emphasizedRanges i ps, i ≤ r.1 ∧ r.2 ≤ i + (wholeText ps).length := by
  induction ps generalizing i with
  | nil => simp [emphasizedRanges]
  | cons p ps ih =>
    intro r hr
    have hlength : (wholeText (p :: ps)).length = p.text.length + (wholeText ps).length := by simp
    have hrest : r ∈ emphasizedRanges (i + p.text.length) ps →
        i ≤ r.1 ∧ r.2 ≤ i + (wholeText (p :: ps)).length := by
      intro hr
      obtain ⟨hstart, hstop⟩ := ih _ r hr
      constructor <;> omega
    rw [emphasizedRanges] at hr
    split at hr
    · rcases List.mem_cons.1 hr with rfl | hr
      · constructor <;> omega
      · exact hrest hr
    · exact hrest hr

lemma Parted.apart (h : Parted ps) (i : Int) : (emphasizedRanges i ps).Pairwise fun p q => p.2 < q.1 := by
  induction h generalizing i with
  | nil => exact .nil
  | plain _ ih => exact ih _
  | last text => exact List.pairwise_singleton _ _
  | @marked text next ps hne _ ih =>
    refine List.pairwise_cons.2 ⟨fun r hr => ?_, ih _⟩
    have hpos := List.length_pos_iff.2 hne
    have hstart := (emphasizedRanges_within _ ps r hr).1
    simp only at hstart ⊢
    omega

def plainPiece (text : List Char) : List Piece := if text.isEmpty then [] else [⟨false, text⟩]

def joined : List Char → List Piece → List Piece
  | pending, [] => plainPiece pending
  | pending, ⟨false, text⟩ :: ps => joined (pending ++ text) ps
  | pending, ⟨true, []⟩ :: ps => joined pending ps
  | pending, ⟨true, c :: text⟩ :: ps => plainPiece pending ++ ⟨true, c :: text⟩ :: joined [] ps

@[simp] lemma wholeText_plainPiece (text : List Char) : wholeText (plainPiece text) = text := by
  cases text <;> simp [plainPiece]

@[simp] lemma plainText_plainPiece (text : List Char) : plainText (plainPiece text) = text := by
  cases text <;> simp [plainPiece]

lemma wholeText_joined (pending : List Char) (ps : List Piece) :
    wholeText (joined pending ps) = pending ++ wholeText ps := by
  fun_induction joined pending ps <;> simp_all

lemma plainText_joined (pending : List Char) (ps : List Piece) :
    plainText (joined pending ps) = pending ++ plainText ps := by
  fun_induction joined pending ps <;> simp_all

lemma slice_between (front text rest : List Char) :
    Text.slice (front ++ text ++ rest) front.length (front.length + text.length) = text := by
  have hstart : ¬ (front.length : Int) < 0 := by omega
  have hstop : ¬ (front.length + text.length : Int) < 0 := by omega
  simp only [Text.slice, Text.slicePosition, if_neg hstart, if_neg hstop]
  rw [show min (front.length + text.length : Int).toNat (front ++ text ++ rest).length = (front ++ text).length by
    simp; omega, show min (front.length : Int).toNat (front ++ text ++ rest).length = front.length by
    simp, List.take_left, List.drop_left]

lemma plainPiece_eq (front text rest : List Char) :
    (if (front.length : Int) < front.length + text.length then
      [⟨false, Text.slice (front ++ text ++ rest) front.length (front.length + text.length)⟩] else []) =
        plainPiece text := by
  rw [slice_between]
  cases text <;> simp [plainPiece]

lemma piecesFrom_emphasizedRanges (front pending : List Char) (ps : List Piece) :
    Line.piecesFrom (front ++ pending ++ wholeText ps) front.length
      ((emphasizedRanges (front.length + pending.length) ps).filter fun r => r.1 < r.2) = joined pending ps := by
  -- What stands before the next range is `pending`: plain pieces and empty ones leave the position where it is.
  fun_induction joined pending ps generalizing front with
  | case1 pending =>
    have hplain := plainPiece_eq front pending []
    simp only [List.append_nil] at hplain
    simp only [emphasizedRanges, List.filter_nil, Line.piecesFrom, wholeText_nil, List.append_nil]
    rwa [List.length_append, Nat.cast_add]
  | case2 pending text ps ih =>
    have hrest := ih front
    simp only [List.length_append, Nat.cast_add, ← add_assoc, ← List.append_assoc] at hrest
    simpa [emphasizedRanges] using hrest
  | case3 pending ps ih => simpa [emphasizedRanges] using ih front
  | case4 pending c text ps ih =>
    have hplain := plainPiece_eq front pending ((c :: text) ++ wholeText ps)
    have hmarked := slice_between (front ++ pending) (c :: text) (wholeText ps)
    have hrest := ih (front ++ pending ++ c :: text)
    simp only [List.length_append, List.length_nil, Nat.cast_add, Nat.cast_zero, add_zero,
      List.append_nil] at hmarked hrest
    rw [emphasizedRanges, if_pos rfl, List.filter_cons_of_pos (by simp), Line.piecesFrom, wholeText_cons]
    rw [hplain, ← List.append_assoc, hmarked, hrest]

lemma marked_piecesFrom (value : List Char) (position : Int) (rs : List Range) :
    ((Line.piecesFrom value position rs).filter Piece.emphasized).map Piece.text =
      rs.map fun r => Text.slice value r.1 r.2 := by
  have hplain : ∀ (p : Prop) [Decidable p] (text : List Char),
      (if p then [(⟨false, text⟩ : Piece)] else []).filter Piece.emphasized = [] := by
    intro p _ text
    split <;> simp
  induction rs generalizing position with
  | nil => rw [Line.piecesFrom, hplain, List.map_nil, List.map_nil]
  | cons r rs ih =>
    rw [Line.piecesFrom, List.filter_append, hplain, List.nil_append, List.filter_cons_of_pos rfl, List.map_cons, ih]
    rfl

def Alternate (ps : List Piece) : Prop := ps.IsChain fun p q => p.emphasized ≠ q.emphasized

lemma alternate_after (text : List Char) (h : Alternate ps) (hhead : ∀ p ∈ ps.head?, p.emphasized = false) :
    Alternate (plainPiece pending ++ ⟨true, text⟩ :: ps) := by
  have hmarked : Alternate (⟨true, text⟩ :: ps) :=
    List.isChain_cons.2 ⟨fun p hp => by simp [hhead p hp], h⟩
  cases pending with
  | nil => exact hmarked
  | cons c pending => exact List.isChain_cons_cons.2 ⟨by simp, hmarked⟩

lemma Parted.alternate (h : Parted ps) (pending : List Char) : Alternate (joined pending ps) ∧
    (pending ≠ [] → ∀ p ∈ (joined pending ps).head?, p.emphasized = false) := by
  -- Plain text at hand is the first piece, so one that is emphasized can stand before it.
  induction h generalizing pending with
  | nil => cases pending <;> simp [joined, plainPiece, Alternate]
  | @plain text ps _ ih =>
    obtain ⟨hchain, hhead⟩ := ih (pending ++ text)
    exact ⟨hchain, fun hne => hhead (by simp [hne])⟩
  | last text =>
    cases text with
    | nil => cases pending <;> simp [joined, plainPiece, Alternate]
    | cons c text =>
      refine ⟨alternate_after _ .nil (by simp [joined, plainPiece]), fun hne => ?_⟩
      cases pending <;> simp_all [joined, plainPiece]
  | @marked text next ps hnext _ ih =>
    cases text with
    | nil =>
      obtain ⟨hchain, hhead⟩ := ih (pending ++ next)
      exact ⟨hchain, fun hne => hhead (by simp [hne])⟩
    | cons c text =>
      obtain ⟨hchain, hhead⟩ := ih next
      refine ⟨alternate_after _ hchain (hhead hnext), fun hne => ?_⟩
      cases pending <;> simp_all [joined, plainPiece]

end Pieces

section Alignments

variable {ss : List (Segment Char)}

def sidePieces (side : Segment Char → List Char) (ss : List (Segment Char)) : List Piece :=
  ss.map fun s => ⟨s.isChanged, side s⟩

lemma wholeText_sidePieces (side : Segment Char → List Char) (ss : List (Segment Char)) :
    wholeText (sidePieces side ss) = ss.flatMap side := by
  rw [wholeText, sidePieces, List.flatMap_map]

lemma plainText_sidePieces (ss : List (Segment Char)) :
    plainText (sidePieces Segment.old ss) = plainText (sidePieces Segment.new ss) := by
  induction ss with
  | nil => rfl
  | cons s ss ih =>
    cases s with
    | kept xs => exact congrArg (xs ++ ·) ih
    | changed xs ys => exact ih

lemma Spaced.parted (h : Spaced ss) (side : Segment Char → List Char) (hside : ∀ xs, side (.kept xs) = xs) :
    Parted (sidePieces side ss) := by
  induction h with
  | nil => exact .nil
  | kept _ _ ih => exact .plain ih
  | last _ => exact .last _
  | changed _ hkept _ ih => exact .marked (by rwa [hside]) ih

lemma changedRanges_eq (i j : Int) (ss : List (Segment Char)) : changedRanges i j ss =
    (emphasizedRanges i (sidePieces Segment.old ss), emphasizedRanges j (sidePieces Segment.new ss)) := by
  induction ss generalizing i j with
  | nil => rfl
  | cons s ss ih =>
    rw [changedRanges, ih]
    cases s <;> rfl

structure Marks (ps : List Piece) (value : List Char) (emphasis : List Range) : Prop where
  whole : wholeText ps = value
  parted : Parted ps
  ranges : emphasis = (emphasizedRanges 0 ps).filter fun r => r.1 < r.2

lemma marks_inlineEmphasis (old new : List Char) : ∃ ps qs, plainText ps = plainText qs ∧
    Marks ps old (inlineEmphasis old new).1 ∧ Marks qs new (inlineEmphasis old new).2 := by
  have hspaced := spaced_align old new
  have holds := hspaced.parted Segment.old fun _ => rfl
  have hnews := hspaced.parted Segment.new fun _ => rfl
  refine ⟨_, _, plainText_sidePieces (align old new), ⟨?_, holds, ?_⟩, ?_, hnews, ?_⟩
  · rw [wholeText_sidePieces]
    exact oldOf_align old new
  · simp only [inlineEmphasis, changedRanges_eq]
    exact mergeRanges_of_gaps ((holds.apart 0).filter _)
  · rw [wholeText_sidePieces]
    exact newOf_align old new
  · simp only [inlineEmphasis, changedRanges_eq]
    exact mergeRanges_of_gaps ((hnews.apart 0).filter _)

example : inlineEmphasis "port 80\n".toList "port: 443\n".toList = ([(5, 7)], [(4, 5), (6, 9)]) := by cbv

end Alignments

end ConfigKeeper.Diff
