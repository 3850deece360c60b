import ConfigKeeper.Wildcard.Selection
import Mathlib.Tactic

/-!
What more lines do to a list of patterns. A line that does not begin with `!` gives patterns that only
select, so at the end of a list they take nothing out of what the list selects or ignores.
-/

namespace ConfigKeeper.Wildcard

variable {ps qs : Patterns} {p : Pattern} {xs ys : List String}

lemma ofLines_append (hx : ofLines xs = .ok ps) (hy : ofLines ys = .ok qs) :
    ofLines (xs ++ ys) = .ok (ps ++ qs) := by
  induction xs generalizing ps with
  | nil =>
    cases hx
    exact hy
  | cons line xs ih =>
    rw [ofLines] at hx
    rw [List.cons_append, ofLines]
    cases hline : Pattern.ofLine line.toList with
    | error f =>
      rw [hline] at hx
      cases hx
    | ok own =>
      rw [hline] at hx
      cases own with
      | none => exact ih hx
      | some p =>
        cases hrest : ofLines xs with
        | error f =>
          rw [hrest] at hx
          cases hx
        | ok rest =>
          rw [hrest] at hx
          cases hx
          simp only [ih hrest]
          rfl

lemma trimEnd_prefix (s : List Char) : Text.trimEnd s <+: s := by
  rw [Text.trimEnd, ← List.reverse_suffix, List.reverse_reverse]
  exact List.dropWhile_suffix _

lemma withoutTrailingBlanks_prefix (line : List Char) : withoutTrailingBlanks line <+: line := by
  rw [withoutTrailingBlanks]
  split
  · exact List.prefix_rfl
  · exact trimEnd_prefix line

def Plain (ps : Patterns) : Prop := ∀ p ∈ ps, p.negated = false

lemma negated_of_map {x : Except PatternFault (Option Shape)} {negated : Bool}
    (h : Option.map (Pattern.mk negated) <$> x = .ok (some p)) : p.negated = negated := by
  match x, h with
  | .ok (some shape), h =>
    cases h
    rfl

lemma negated_ofLine {line : List Char} (hline : line.head? ≠ some '!') (hp : Pattern.ofLine line = .ok (some p)) :
    p.negated = false := by
  rw [Pattern.ofLine] at hp
  split at hp
  · cases hp
  · cases hp
  · cases hp
  · next text htext =>
    -- trimming leaves the front of a line alone
    obtain ⟨blanks, hblanks⟩ := withoutTrailingBlanks_prefix line
    rw [← hblanks, htext] at hline
    exact absurd rfl hline
  · exact negated_of_map hp

lemma plain_ofLines {line : String} (hline : line.toList.head? ≠ some '!') (hp : ofLines [line] = .ok ps) :
    Plain ps := by
  rw [ofLines] at hp
  cases hown : Pattern.ofLine line.toList with
  | error f =>
    rw [hown] at hp
    cases hp
  | ok own =>
    rw [hown] at hp
    cases own with
    | none =>
      cases hp
      exact fun q hq => absurd hq List.not_mem_nil
    | some p =>
      cases hp
      intro q hq
      rw [List.mem_singleton] at hq
      exact hq ▸ negated_ofLine hline hown

lemma selects_append {path : String} (hq : Plain qs) (h : selects ps path = true) : selects (ps ++ qs) path = true := by
  rw [selects, List.reverse_append, List.find?_append]
  cases hlast : qs.reverse.find? fun p => (p.reaches (matchedForm path.toList)).isSome with
  | none => exact h
  | some p =>
    have hp : p.negated = false := hq p (List.mem_reverse.1 (List.mem_of_find?_eq_some hlast))
    simp [hp]

lemma ignored_next {d : Decision} (hp : p.negated = false) (path : List Char) (h : d.ignored = true) :
    (d.next path p).ignored = true := by
  rw [Decision.next]
  split
  · exact h
  · split
    · simp [hp]
    · exact h

lemma ignored_foldl {d : Decision} (hq : Plain qs) (path : List Char) (h : d.ignored = true) :
    (qs.foldl (Decision.next path) d).ignored = true := by
  induction qs generalizing d with
  | nil => exact h
  | cons q qs ih =>
    obtain ⟨hown, hrest⟩ := List.forall_mem_cons.1 hq
    exact ih hrest (ignored_next hown path h)

lemma ignores_append {path : String} (hq : Plain qs) (h : ignores ps path = true) : ignores (ps ++ qs) path = true := by
  rw [ignores, List.foldl_append]
  exact ignored_foldl hq _ h

end ConfigKeeper.Wildcard
