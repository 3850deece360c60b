import ConfigKeeper.Proofs.Diff.Script
import ConfigKeeper.Proofs.Text.Lines

/-!
The last lines of the two texts of a script. A line that no terminator ends is the last one on each
side where it is.
-/

namespace ConfigKeeper.Diff

section Side

variable {absent : Tag} {index : Line → Option Int} {text v : List Char} {items : List (List Char)}
  {lines : List Line} {l : Line}

def LastOf (index : Option Int) (text : List Char) : Prop := ∀ i ∈ index, i + 1 = ((Text.lines text).length : Int)

instance (index : Option Int) (text : List Char) : Decidable (LastOf index text) :=
  inferInstanceAs (Decidable (∀ i ∈ index, _))

lemma missingNewline_iff (l : Line) :
    l.missingNewline = true ↔ ∀ c ∈ l.value.getLast?, Line.endsLine c = false := by
  rw [Line.missingNewline]
  cases l.value.getLast? with
  | none => simp
  | some c => simp

lemma Covers.exists_line (h : Covers absent index items lines) {n : Nat} (hn : items[n]? = some v) :
    ∃ l ∈ lines, index l = some (n : Int) ∧ l.value = v := by
  have hlt : n < items.length := (List.getElem?_eq_some_iff.1 hn).1
  have hmem : some (n : Int) ∈ (lines.filter fun l => l.tag != absent).map index := by
    rw [h.indices]
    exact List.mem_map_of_mem (List.mem_range.2 hlt)
  obtain ⟨l, hl, hindex⟩ := List.mem_map.1 hmem
  obtain ⟨m, hm, hvalue⟩ := h.value l (List.mem_of_mem_filter hl) _ hindex
  obtain rfl : n = m := by exact_mod_cast hm
  exact ⟨l, List.mem_of_mem_filter hl, hindex, Option.some.inj (hvalue.symm.trans hn)⟩

lemma Covers.lastOf_or (h : Covers absent index (Text.lines text) lines) (hl : l ∈ lines) :
    LastOf (index l) text ∨ l.value ∈ (Text.lines text).dropLast := by
  by_contra hno
  rw [not_or] at hno
  apply hno.1
  intro i hi
  obtain ⟨n, rfl, hvalue⟩ := h.value l hl i hi
  have hlt : n < (Text.lines text).length := (List.getElem?_eq_some_iff.1 hvalue).1
  by_contra hne
  apply hno.2
  refine List.mem_of_getElem? (i := n) ?_
  rw [List.getElem?_dropLast, if_pos (by omega), hvalue]

lemma Covers.marked_last_iff (h : Covers absent index (Text.lines text) lines) :
    (∀ l ∈ lines, l.missingNewline = true → LastOf (index l) text) ↔
      ∀ c ∈ text.dropLast, Text.isTerminator c = true → Line.endsLine c = true := by
  -- A terminator before the end stands at the end of a line that is not the last one.
  constructor
  · intro hall c hmem hc
    by_contra hends
    have hr : c ≠ '\r' := by
      rintro rfl
      exact hends rfl
    obtain ⟨v, hv, hlast⟩ := (Text.mem_dropLast_iff hc hr).1 hmem
    obtain ⟨n, hn⟩ := List.getElem?_of_mem hv
    rw [List.getElem?_dropLast] at hn
    split at hn
    · next hlt =>
      obtain ⟨l, hl, hindex, rfl⟩ := h.exists_line hn
      have hmissing : l.missingNewline = true := (missingNewline_iff l).2 fun d hd => by
        obtain rfl : c = d := Option.some.inj (hlast.symm.trans hd)
        simpa using hends
      have hend := hall l hl hmissing n hindex
      omega
    · cases hn
  · intro hall l hl hmissing
    rcases h.lastOf_or hl with hlast | hmem
    · exact hlast
    · obtain ⟨c, hlast, hc⟩ := Text.closed_of_mem_dropLast hmem
      have hends : Line.endsLine c = false := (missingNewline_iff l).1 hmissing c hlast
      have hr : c ≠ '\r' := by
        rintro rfl
        cases hends
      have hin := (Text.mem_dropLast_iff hc hr).2 ⟨l.value, hmem, hlast⟩
      rw [hall c hin hc] at hends
      cases hends

end Side

section Texts

variable {old new : List Char} {l : Line}

def IsLast (old new : List Char) (l : Line) : Prop := LastOf l.oldIndex old ∧ LastOf l.newIndex new

instance (old new : List Char) (l : Line) : Decidable (IsLast old new l) := inferInstanceAs (Decidable (_ ∧ _))

lemma covers_old (old new : List Char) : Covers .insert Line.oldIndex (Text.lines old) (script old new) :=
  covers_of_sideOf (sideOf_old_script old new) fun _ h => (index_script h).1

lemma covers_new (old new : List Char) : Covers .delete Line.newIndex (Text.lines new) (script old new) :=
  covers_of_sideOf (sideOf_new_script old new) fun _ h => (index_script h).2

lemma isLast_of_open (hl : l ∈ script old new) (hopen : ∀ c ∈ l.value.getLast?, Text.isTerminator c = false) :
    IsLast old new l := by
  have hno : ∀ text, l.value ∉ (Text.lines text).dropLast := fun text hmem => by
    obtain ⟨c, hlast, hc⟩ := Text.closed_of_mem_dropLast hmem
    rw [hopen c hlast] at hc
    cases hc
  exact ⟨((covers_old old new).lastOf_or hl).resolve_right (hno old),
    ((covers_new old new).lastOf_or hl).resolve_right (hno new)⟩

lemma isLine_value (hl : l ∈ script old new) : Text.IsLine l.value := by
  obtain ⟨hold, hnew⟩ := index_script hl
  cases hi : l.oldIndex with
  | some i =>
    obtain ⟨n, -, hn⟩ := (covers_old old new).value l hl i hi
    exact Text.isLine_of_mem (List.mem_of_getElem? hn)
  | none =>
    have htag : l.tag ≠ .delete := by
      rw [hold.1 hi]
      decide
    obtain ⟨j, hj⟩ := Option.ne_none_iff_exists'.1 (mt hnew.1 htag)
    obtain ⟨n, -, hn⟩ := (covers_new old new).value l hl j hj
    exact Text.isLine_of_mem (List.mem_of_getElem? hn)

end Texts

end ConfigKeeper.Diff
