import ConfigKeeper.Console.Markup
import Mathlib.Tactic

/-!
Text without an opening bracket holds no tag, so it is always good markup.
-/

namespace ConfigKeeper.Console.Markup

lemma mark?_eq_none {s : List Char} (h : '[' ∉ s) : mark? s = none := by
  rw [mark?]
  split
  · next r hr => exact absurd (List.mem_of_mem_drop (hr ▸ List.mem_cons_self)) h
  · rfl

lemma tokensAux_of_no_bracket {s : List Char} (h : '[' ∉ s) (acc : List Char) :
    tokensAux 0 acc s = flush (s.reverse ++ acc) := by
  induction s generalizing acc with
  | nil => rfl
  | cons c r ih =>
    rw [tokensAux, mark?_eq_none h]
    simp only [List.reverse_cons, List.append_assoc, List.singleton_append]
    exact ih (List.not_mem_of_not_mem_cons h) _

lemma textOf_flush (open_ : List (List String)) (acc : List Char) : ∃ shown, textOf open_ (flush acc) = .ok shown := by
  rw [flush]
  split
  · exact ⟨[], rfl⟩
  · exact ⟨unescape acc.reverse ++ [], rfl⟩

theorem render_of_no_bracket {s : List Char} (h : '[' ∉ s) : ∃ shown, render s = .ok shown := by
  obtain ⟨shown, hs⟩ := textOf_flush [] (s.reverse ++ [])
  refine ⟨sanitized shown, ?_⟩
  rw [render, tokens, tokensAux_of_no_bracket h, hs]
  rfl

lemma not_mem_toString {c : Char} (h : c.isDigit = false) (n : Nat) : c ∉ (toString n).toList := by
  intro hc
  have hdigits : (toString n).toList = Nat.toDigits 10 n := String.toList_ofList
  rw [hdigits] at hc
  rw [Nat.isDigit_of_mem_toDigits (by decide) (by decide) hc] at h
  cases h

lemma not_mem_numbered {c : Char} (hc : c.isDigit = false) {front back : List Char} (hf : c ∉ front) (hb : c ∉ back)
    (n : Nat) : c ∉ front ++ ((toString n).toList ++ back) := by
  rw [List.mem_append, List.mem_append, not_or, not_or]
  exact ⟨hf, not_mem_toString hc n, hb⟩

end ConfigKeeper.Console.Markup
