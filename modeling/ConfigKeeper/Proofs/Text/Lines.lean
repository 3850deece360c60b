import ConfigKeeper.Text.Lines
import Mathlib.Tactic

/-!
The shape of lines. A terminator stands at the end of a line only, and every line but a last one has
one there. So the lines that are not the last end where the text has a terminator before its end.
-/

namespace ConfigKeeper.Text

variable {s acc v w body : List Char} {c : Char}

def Solid (body : List Char) : Prop := ∀ c ∈ body, isTerminator c = false

inductive Ending : List Char → Prop
  | missing : Ending []
  | single {c : Char} (hc : isTerminator c = true) : Ending [c]
  | pair : Ending ['\r', '\n']

inductive IsLine : List Char → Prop
  | intro {body ending : List Char} (hbody : Solid body) (hending : Ending ending) : IsLine (body ++ ending)

lemma solid_nil : Solid [] := by simp [Solid]

lemma Solid.push (h : Solid acc.reverse) (hc : isTerminator c = false) : Solid (c :: acc).reverse := by
  intro d hd
  rw [List.reverse_cons, List.mem_append, List.mem_singleton] at hd
  rcases hd with hd | rfl
  · exact h d hd
  · exact hc

lemma isLine_linesAux (h : Solid acc.reverse) : ∀ v ∈ linesAux s acc, IsLine v := by
  fun_induction linesAux s acc with
  | case1 acc hempty => simp
  | case2 acc hempty =>
    intro v hv
    obtain rfl := List.mem_singleton.1 hv
    simpa using IsLine.intro h .missing
  | case3 r acc ih =>
    intro v hv
    rcases List.mem_cons.1 hv with rfl | hv
    · simpa using IsLine.intro h .pair
    · exact ih solid_nil v hv
  | case4 c r acc hpair hc ih =>
    intro v hv
    rcases List.mem_cons.1 hv with rfl | hv
    · simpa using IsLine.intro h (.single hc)
    · exact ih solid_nil v hv
  | case5 c r acc hpair hc ih => exact ih (h.push (by simpa using hc))

lemma isLine_of_mem (h : v ∈ lines s) : IsLine v := @isLine_linesAux s [] solid_nil v h

lemma mem_dropLast_cons {ws : List (List Char)} (h : v ∈ (w :: ws).dropLast) : v = w ∨ v ∈ ws.dropLast := by
  cases ws with
  | nil => cases h
  | cons u us => exact List.mem_cons.1 h

lemma closed_linesAux (s acc : List Char) :
    ∀ v ∈ (linesAux s acc).dropLast, ∃ c ∈ v.getLast?, isTerminator c = true := by
  fun_induction linesAux s acc with
  | case1 acc hempty => simp
  | case2 acc hempty => simp
  | case3 r acc ih =>
    intro v hv
    rcases mem_dropLast_cons hv with rfl | hv
    · exact ⟨'\n', by simp, by decide⟩
    · exact ih v hv
  | case4 c r acc hpair hc ih =>
    intro v hv
    rcases mem_dropLast_cons hv with rfl | hv
    · exact ⟨c, by simp, hc⟩
    · exact ih v hv
  | case5 c r acc hpair hc ih => exact ih

lemma closed_of_mem_dropLast (h : v ∈ (lines s).dropLast) : ∃ c ∈ v.getLast?, isTerminator c = true :=
  closed_linesAux s [] v h

lemma ne_nil_of_mem_lines (h : v ∈ lines s) : v ≠ [] := by
  have hall : ∀ s acc : List Char, ∀ v ∈ linesAux s acc, v ≠ [] := by
    intro s acc
    fun_induction linesAux s acc <;> simp_all
  exact hall s [] v h

lemma Solid.not_mem (h : Solid body) (hc : isTerminator c = true) : c ∉ body := by
  intro hmem
  rw [h c hmem] at hc
  cases hc

lemma IsLine.cases_end (h : IsLine v) : (∃ body, Solid body ∧ v = body ++ ['\n']) ∨
    (∃ body, Solid body ∧ (v = body ++ ['\r'] ∨ v = body ++ ['\r', '\n'])) ∨ ('\r' ∉ v ∧ '\n' ∉ v) := by
  obtain ⟨hbody, hending⟩ := h
  have hcr := hbody.not_mem (c := '\r') (by decide)
  have hnl := hbody.not_mem (c := '\n') (by decide)
  cases hending with
  | missing => exact .inr (.inr (by simpa using ⟨hcr, hnl⟩))
  | pair => exact .inr (.inl ⟨_, hbody, .inr rfl⟩)
  | @single c hc =>
    by_cases hn : c = '\n'
    · exact .inl ⟨_, hbody, by rw [hn]⟩
    · by_cases hr : c = '\r'
      · exact .inr (.inl ⟨_, hbody, .inl (by rw [hr])⟩)
      · exact .inr (.inr (by simp [hcr, hnl, Ne.symm hn, Ne.symm hr]))

lemma IsLine.last_of_mem (h : IsLine v) (hmem : c ∈ v) (hc : isTerminator c = true) (hr : c ≠ '\r') :
    v.getLast? = some c ∧ c ∉ v.dropLast := by
  obtain ⟨hbody, hending⟩ := h
  have hno := hbody.not_mem hc
  cases hending with
  | missing => exact absurd hmem (by simpa using hno)
  | @single d hd =>
    obtain rfl : c = d := by simpa [hno] using hmem
    simpa using hno
  | pair =>
    obtain rfl : c = '\n' := by simpa [hno, hr] using hmem
    simpa using hno

lemma dropLast_eq_of_lines {front : List (List Char)} (h : lines s = front ++ [w]) :
    s.dropLast = front.flatten ++ w.dropLast := by
  have hw : w ≠ [] := ne_nil_of_mem_lines (s := s) (by simp [h])
  have hflat := lines_flatten s
  rw [h, List.flatten_append, List.flatten_singleton] at hflat
  rw [← hflat, List.dropLast_append_of_ne_nil hw]

theorem mem_dropLast_iff (hc : isTerminator c = true) (hr : c ≠ '\r') :
    c ∈ s.dropLast ↔ ∃ v ∈ (lines s).dropLast, v.getLast? = some c := by
  rcases List.eq_nil_or_concat (lines s) with hnil | ⟨front, w, hlines⟩
  · have hs : s = [] := by rw [← lines_flatten s, hnil, List.flatten_nil]
    rw [hnil, hs]
    simp
  · rw [List.concat_eq_append] at hlines
    rw [dropLast_eq_of_lines hlines, hlines, List.dropLast_concat, List.mem_append, List.mem_flatten]
    have hw : IsLine w := isLine_of_mem (s := s) (by simp [hlines])
    have hfront : ∀ v ∈ front, IsLine v := fun v hv => isLine_of_mem (s := s) (by simp [hlines, hv])
    constructor
    · rintro (⟨v, hv, hmem⟩ | hmem)
      · exact ⟨v, hv, ((hfront v hv).last_of_mem hmem hc hr).1⟩
      · exact absurd hmem (hw.last_of_mem (List.mem_of_mem_dropLast hmem) hc hr).2
    · rintro ⟨v, hv, hlast⟩
      exact .inl ⟨v, hv, List.mem_of_getLast? hlast⟩

end ConfigKeeper.Text
