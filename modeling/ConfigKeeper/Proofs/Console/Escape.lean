import ConfigKeeper.Proofs.Console.Markup
import Mathlib.Data.List.TakeWhile

/-!
An escaped text in a line of markup. Escaping only puts backslashes in, and it takes every whole tag
of the text out of effect. A piece of a tag at the end of the text needs a closing bracket behind it,
so with none there the text shows, whatever it is.
-/

namespace ConfigKeeper.Console.Markup

def isBracket (c : Char) : Bool := c = ']' || c = '['

def bracket? (s : List Char) : Option Char := s.find? isBracket

def isInside (c : Char) : Bool := c != ']' && c != '['

lemma isInside_eq (c : Char) : isInside c = !isBracket c := by
  simp [isBracket, isInside, bne, beq_eq_decide]

lemma not_isBracket_of_startsTag {c : Char} (h : startsTag c = true) : isBracket c = false := by
  by_contra hb
  rw [Bool.not_eq_false, isBracket, Bool.or_eq_true, decide_eq_true_eq, decide_eq_true_eq] at hb
  rcases hb with rfl | rfl <;> cases h

section Tags

lemma drop_takeWhile {α : Type} (p : α → Bool) (s : List α) : s.drop (s.takeWhile p).length = s.dropWhile p := by
  induction s with
  | nil => rfl
  | cons x xs ih =>
    rw [List.takeWhile_cons, List.dropWhile_cons]
    by_cases h : p x = true
    · simp [h, ih]
    · simp [h]

lemma tagBody?_cons (c : Char) (r : List Char) : tagBody? (c :: r) =
    if startsTag c then if bracket? r = some ']' then some (c :: r.takeWhile isInside) else none else none := by
  have hb : bracket? r = (r.drop (r.takeWhile isInside).length).head? := by
    rw [drop_takeWhile, bracket?, List.find?_eq_head?_dropWhile_not]
    exact congrArg (fun p => (r.dropWhile p).head?) (funext fun c => (isInside_eq c).symm)
  rw [hb]
  rfl

lemma tagBody?_cons_eq_none_iff {c : Char} {r : List Char} :
    tagBody? (c :: r) = none ↔ (startsTag c = true → bracket? r ≠ some ']') := by
  rw [tagBody?_cons]
  by_cases hc : startsTag c = true <;> simp [hc]

def IsBody (body : List Char) : Prop := ∀ r, tagBody? (body ++ ']' :: r) = some body

lemma isBody_of_tagBody? {s body : List Char} (h : tagBody? s = some body) :
    IsBody body ∧ ∃ r, s = body ++ ']' :: r := by
  cases s with
  | nil => cases h
  | cons c r =>
    rw [tagBody?_cons] at h
    split at h
    · next hc =>
      split at h
      · next hb =>
        cases h
        obtain ⟨-, front, back, rfl, hfront⟩ := List.find?_eq_some_iff_append.1 hb
        have hinside : ∀ x ∈ front, isInside x = true := fun x hx => by
          simpa [isInside_eq] using hfront x hx
        have htake : ∀ r, (front ++ ']' :: r).takeWhile isInside = front := fun r => by
          rw [List.takeWhile_append_of_pos hinside, List.takeWhile_cons_of_neg (by decide), List.append_nil]
        refine ⟨fun r => ?_, back, by rw [htake]; rfl⟩
        have hbracket : bracket? (front ++ ']' :: r) = some ']' :=
          List.find?_eq_some_iff_append.2 ⟨rfl, front, r, rfl, hfront⟩
        rw [htake, List.cons_append, tagBody?_cons, if_pos hc, if_pos hbracket, htake]
      · cases h
    · cases h

end Tags

section Marks

lemma mark?_slash (s : List Char) : mark? ('\\' :: s) = (mark? s).map fun m => ⟨m.slashes + 1, m.body⟩ := by
  rw [mark?, mark?]
  simp only [decide_true, List.takeWhile_cons_of_pos, List.length_cons, List.drop_succ_cons]
  split
  · rw [Option.map_map]
    rfl
  · rfl

lemma mark?_bracket (s : List Char) : mark? ('[' :: s) = (tagBody? s).map fun body => ⟨0, body⟩ := rfl

lemma mark?_of_ne {c : Char} (hs : c ≠ '\\') (hb : c ≠ '[') (r : List Char) : mark? (c :: r) = none := by
  rw [mark?]
  simp [hs, hb]

def Mark.text (m : Mark) : List Char := List.replicate m.slashes '\\' ++ '[' :: (m.body ++ [']'])

lemma Mark.length_text (m : Mark) : m.text.length = m.size := by
  simp [Mark.text, Mark.size]
  omega

lemma mark?_text {m : Mark} (h : IsBody m.body) (r : List Char) : mark? (m.text ++ r) = some m := by
  obtain ⟨n, body⟩ := m
  induction n with
  | zero =>
    have hs : (Mark.mk 0 body).text ++ r = '[' :: (body ++ ']' :: r) := by simp [Mark.text]
    rw [hs, mark?_bracket, h r]
    rfl
  | succ n ih =>
    have hs : (Mark.mk (n + 1) body).text ++ r = '\\' :: ((Mark.mk n body).text ++ r) := by
      simp [Mark.text, List.replicate_succ]
    rw [hs, mark?_slash, ih h]
    rfl

lemma text_of_mark? {s : List Char} {m : Mark} (h : mark? s = some m) : IsBody m.body ∧ ∃ r, s = m.text ++ r := by
  induction s generalizing m with
  | nil => cases h
  | cons c s ih =>
    by_cases hs : c = '\\'
    · subst hs
      rw [mark?_slash, Option.map_eq_some_iff] at h
      obtain ⟨m', hm, rfl⟩ := h
      obtain ⟨hb, r, rfl⟩ := ih hm
      exact ⟨hb, r, by simp [Mark.text, List.replicate_succ]⟩
    · by_cases hb : c = '['
      · subst hb
        rw [mark?_bracket, Option.map_eq_some_iff] at h
        obtain ⟨body, hbody, rfl⟩ := h
        obtain ⟨hb, r, rfl⟩ := isBody_of_tagBody? hbody
        exact ⟨hb, r, by simp [Mark.text]⟩
      · rw [mark?_of_ne hs hb] at h
        cases h

end Marks

section Skips

lemma tokensAux_skip (xs r acc : List Char) : tokensAux xs.length acc (xs ++ r) = tokensAux 0 acc r := by
  induction xs with
  | nil => rfl
  | cons x xs ih => exact ih

lemma escapeAux_skip (xs r : List Char) : escapeAux xs.length (xs ++ r) = xs ++ escapeAux 0 r := by
  induction xs with
  | nil => rfl
  | cons x xs ih => exact congrArg (x :: ·) ih

lemma text_cons (m : Mark) : ∃ c xs, m.text = c :: xs ∧ xs.length = m.size - 1 := by
  cases hm : m.text with
  | nil => simp [Mark.text] at hm
  | cons c xs =>
    refine ⟨c, xs, rfl, ?_⟩
    rw [← m.length_text, hm]
    rfl

lemma tokensAux_mark {m : Mark} (h : IsBody m.body) (acc r : List Char) :
    tokensAux 0 acc (m.text ++ r) = flush acc ++ m.tokens ++ tokensAux 0 [] r := by
  have hm := mark?_text h r
  obtain ⟨c, xs, hx, hl⟩ := text_cons m
  rw [hx, List.cons_append] at hm ⊢
  rw [tokensAux, hm]
  simp only [← hl, tokensAux_skip]

lemma escapeAux_mark {m : Mark} (h : IsBody m.body) (r : List Char) :
    escapeAux 0 (m.text ++ r) = (Mark.mk (2 * m.slashes + 1) m.body).text ++ escapeAux 0 r := by
  have hm := mark?_text h r
  obtain ⟨c, xs, hx, hl⟩ := text_cons m
  have hdouble : (Mark.mk (2 * m.slashes + 1) m.body).text = List.replicate (m.slashes + 1) '\\' ++ c :: xs := by
    rw [← hx, Mark.text, Mark.text, ← List.append_assoc, List.replicate_append_replicate]
    congr 2
    simp only
    omega
  rw [hdouble]
  rw [hx, List.cons_append] at hm ⊢
  rw [escapeAux, hm]
  simp only [← hl, escapeAux_skip, List.append_assoc, List.cons_append]

end Skips

section Escaped

lemma escapeAux_of_not_mark {c : Char} {r : List Char} (h : mark? (c :: r) = none) :
    escapeAux 0 (c :: r) = c :: escapeAux 0 r := by
  rw [escapeAux, h]

lemma filter_escapeAux (skip : Nat) (s : List Char) :
    (escapeAux skip s).filter (· != '\\') = s.filter (· != '\\') := by
  fun_induction escapeAux skip s with
  | case1 => rfl
  | case2 skip c r ih => rw [List.filter_cons, List.filter_cons, ih]
  | case3 c r m hm ih =>
    rw [List.filter_append, List.filter_replicate, List.filter_cons, List.filter_cons, ih]
    rfl
  | case4 c r hm ih => rw [List.filter_cons, List.filter_cons, ih]

lemma bracket?_filter (s : List Char) : bracket? (s.filter (· != '\\')) = bracket? s := by
  rw [bracket?, List.find?_filter, bracket?]
  congr 1
  funext c
  by_cases hc : c = '\\'
  · subst hc
    decide
  · simp [hc]

lemma bracket?_escapeAux (s t : List Char) : bracket? (escapeAux 0 s ++ t) = (bracket? s).or (bracket? t) := by
  rw [bracket?, List.find?_append, ← bracket?, ← bracket?, ← bracket?_filter, filter_escapeAux, bracket?_filter]

variable {t : List Char} (ht : bracket? t ≠ some ']')

include ht

lemma tagBody?_escapeAux {s : List Char} (h : tagBody? s = none) : tagBody? (escapeAux 0 s ++ t) = none := by
  have hno : ∀ {s}, bracket? s ≠ some ']' → tagBody? s = none := by
    rintro (_ | ⟨c, r⟩) hs
    · rfl
    · rw [tagBody?_cons_eq_none_iff]
      intro hc
      rwa [bracket?, List.find?_cons_of_neg (by rw [not_isBracket_of_startsTag hc]; decide)] at hs
  cases s with
  | nil => exact hno ht
  | cons c r =>
    cases hm : mark? (c :: r) with
    | none =>
      rw [escapeAux_of_not_mark hm, List.cons_append, tagBody?_cons_eq_none_iff, bracket?_escapeAux]
      intro hc
      cases hr : bracket? r with
      | none => exact ht
      | some b => exact fun hb => tagBody?_cons_eq_none_iff.1 h hc (hr.trans hb)
    | some m =>
      obtain ⟨hb, r', he⟩ := text_of_mark? hm
      rw [he, escapeAux_mark hb, Mark.text, List.replicate_succ]
      rfl

lemma mark?_escapeAux {s : List Char} (h : mark? s = none) :
    mark? (escapeAux 0 s ++ t) = none ∨ ∃ n, s = List.replicate n '\\' := by
  induction s with
  | nil => exact .inr ⟨0, rfl⟩
  | cons c r ih =>
    rw [escapeAux_of_not_mark h, List.cons_append]
    by_cases hs : c = '\\'
    · subst hs
      rw [mark?_slash, Option.map_eq_none_iff] at h
      rw [mark?_slash, Option.map_eq_none_iff]
      refine (ih h).imp_right ?_
      rintro ⟨n, rfl⟩
      exact ⟨n + 1, rfl⟩
    · refine .inl ?_
      by_cases hb : c = '['
      · subst hb
        rw [mark?_bracket, Option.map_eq_none_iff] at h
        rw [mark?_bracket, tagBody?_escapeAux ht h]
        rfl
      · exact mark?_of_ne hs hb _

end Escaped

section Shown

def Shows (open_ : List (List String)) (ts : List Token) : Prop := ∃ shown, textOf open_ ts = .ok shown

variable {open_ : List (List String)} {ts : List Token}

lemma Shows.text (h : Shows open_ ts) (s : List Char) : Shows open_ (.text s :: ts) := by
  obtain ⟨shown, hs⟩ := h
  exact ⟨unescape s ++ shown, by rw [textOf, hs]; rfl⟩

lemma Shows.flush (h : Shows open_ ts) (acc : List Char) : Shows open_ (flush acc ++ ts) := by
  rw [Markup.flush]
  split
  · exact h
  · exact h.text _

lemma Shows.slashes (h : Shows open_ ts) (n : Nat) :
    Shows open_ ((if 2 ≤ n then [.text (List.replicate (n / 2) '\\')] else []) ++ ts) := by
  split
  · exact h.text _
  · exact h

/-- However many backslashes come before it, the text shows. -/
def Harmless (open_ : List (List String)) (t : List Char) : Prop :=
  ∀ n acc, Shows open_ (tokensAux 0 acc (List.replicate n '\\' ++ t))

lemma harmless_of_no_bracket {t : List Char} (h : '[' ∉ t) : Harmless [] t := by
  intro n acc
  rw [tokensAux_of_no_bracket (by simpa using h)]
  exact textOf_flush [] _

lemma harmless_tag {body r : List Char} (hb : IsBody body) (h : Shows open_ (.tag body :: tokensAux 0 [] r))
    (hr : Shows open_ (tokensAux 0 [] r)) : Harmless open_ ('[' :: (body ++ ']' :: r)) := by
  intro n acc
  have htext : List.replicate n '\\' ++ '[' :: (body ++ ']' :: r) = (Mark.mk n body).text ++ r := by simp [Mark.text]
  rw [htext, tokensAux_mark (m := ⟨n, body⟩) hb, List.append_assoc]
  refine Shows.flush ?_ acc
  rw [Mark.tokens, List.append_assoc]
  refine Shows.slashes ?_ n
  by_cases hn : n % 2 = 1
  · simp only [hn, if_true]
    exact hr.text _
  · simp only [hn, if_false]
    exact h

lemma Harmless.slash {t : List Char} (h : Harmless open_ t) : Harmless open_ ('\\' :: t) := by
  intro n acc
  have hn := h (n + 1) acc
  rwa [List.replicate_succ', List.append_assoc] at hn

lemma tokensAux_of_not_mark {c : Char} {r : List Char} (h : mark? (c :: r) = none) (acc : List Char) :
    tokensAux 0 acc (c :: r) = tokensAux 0 (c :: acc) r := by
  rw [tokensAux, h]

lemma escapeAux_slashes (n : Nat) : escapeAux 0 (List.replicate n '\\') = List.replicate n '\\' := by
  have hm : ∀ n, mark? (List.replicate n '\\') = none := fun n => mark?_eq_none (by simp)
  induction n with
  | zero => rfl
  | succ n ih => rw [List.replicate_succ, escapeAux_of_not_mark (hm (n + 1)), ih]

lemma shows_escapeAux {t : List Char} (ht : bracket? t ≠ some ']') (h : Harmless open_ t) (s acc : List Char) :
    Shows open_ (tokensAux 0 acc (escapeAux 0 s ++ t)) := by
  -- A mark is taken out whole, so the induction is on the length of the text.
  induction hl : s.length using Nat.strong_induction_on generalizing s acc with
  | _ l ih =>
    cases hm : mark? s with
    | some m =>
      obtain ⟨hb, r, rfl⟩ := text_of_mark? hm
      have hr : r.length < l := by
        rw [← hl, List.length_append, m.length_text, Mark.size]
        omega
      have hodd : (2 * m.slashes + 1) % 2 = 1 := by omega
      rw [escapeAux_mark hb, List.append_assoc, tokensAux_mark (m := ⟨2 * m.slashes + 1, m.body⟩) hb,
        List.append_assoc, Mark.tokens, List.append_assoc]
      refine Shows.flush (Shows.slashes ?_ _) acc
      simp only [hodd, if_true]
      exact (ih _ hr r [] rfl).text _
    | none =>
      rcases mark?_escapeAux ht hm with hnone | ⟨n, rfl⟩
      · cases s with
        | nil => exact h 0 acc
        | cons c r =>
          rw [escapeAux_of_not_mark hm, List.cons_append] at hnone ⊢
          rw [tokensAux_of_not_mark hnone]
          exact ih r.length (by rw [← hl, List.length_cons]; omega) r _ rfl
      · rw [escapeAux_slashes]
        exact h n acc

theorem shows_escape {t : List Char} (ht : bracket? t ≠ some ']') (h : Harmless open_ t) (s acc : List Char) :
    Shows open_ (tokensAux 0 acc (escape s ++ t)) := by
  rw [escape]
  split
  · rw [List.append_assoc]
    exact shows_escapeAux (t := '\\' :: t) ht h.slash s acc
  · exact shows_escapeAux ht h s acc

lemma tokensAux_front {front : List Char} (hs : '\\' ∉ front) (hb : '[' ∉ front) (r acc : List Char) :
    tokensAux 0 acc (front ++ r) = tokensAux 0 (front.reverse ++ acc) r := by
  induction front generalizing acc with
  | nil => rfl
  | cons c front ih =>
    rw [List.mem_cons, not_or] at hs hb
    rw [List.cons_append, tokensAux_of_not_mark (mark?_of_ne (Ne.symm hs.1) (Ne.symm hb.1) _), ih hs.2 hb.2,
      List.reverse_cons, List.append_assoc, List.singleton_append]

lemma render_of_shows {s : List Char} (h : Shows [] (tokens s)) : ∃ shown, render s = .ok shown := by
  obtain ⟨shown, hs⟩ := h
  exact ⟨sanitized shown, by rw [render, hs]; rfl⟩

theorem render_escape_between {front back : List Char} (hs : '\\' ∉ front) (hf : '[' ∉ front) (hb : '[' ∉ back)
    (hc : ']' ∉ back) (s : List Char) : ∃ shown, render (front ++ escape s ++ back) = .ok shown := by
  apply render_of_shows
  rw [tokens, List.append_assoc, tokensAux_front hs hf]
  refine shows_escape ?_ (harmless_of_no_bracket hb) s _
  exact fun h => hc (List.mem_of_find?_eq_some h)

structure Closes (name : List Char) : Prop where
  opening : tagBody? (name ++ [']']) = some name
  closing : tagBody? ('/' :: (name ++ [']'])) = some ('/' :: name)
  opens : ∀ open_ ts, textOf open_ (.tag name :: ts) = textOf (styleName name :: open_) ts
  closes : ∀ open_ ts, textOf (styleName name :: open_) (.tag ('/' :: name) :: ts) = textOf open_ ts

lemma textOf_closing {name : List Char} (hname : nameOf name = name) (hblank : (Text.trim name).isEmpty = false)
    (open_ : List (List String)) (ts : List Token) :
    textOf (styleName name :: open_) (.tag ('/' :: name) :: ts) = textOf open_ ts := by
  have hslash : nameOf ('/' :: name) = '/' :: name := congrArg ('/' :: ·) hname
  rw [textOf, hslash]
  simp [hblank]

lemma closes_of_mem (name : String) (h : name ∈ ["green", "red", "yellow"]) : Closes name.toList := by
  simp only [List.mem_cons, List.not_mem_nil, or_false] at h
  rcases h with rfl | rfl | rfl
  all_goals exact ⟨by decide, by decide, fun _ _ => rfl, textOf_closing (by decide) (by decide)⟩

def Mild (t : List Char) : Prop := ∀ open_ acc, Shows open_ (tokensAux 0 acc t)

namespace Mild

lemma nil : Mild [] := textOf_flush

lemma after {front t : List Char} (h : Mild t) (hs : '\\' ∉ front) (hf : '[' ∉ front) : Mild (front ++ t) := by
  intro open_ acc
  rw [tokensAux_front hs hf]
  exact h open_ _

lemma styled {name front t : List Char} (h : Mild t) (hn : Closes name) (hs : '\\' ∉ front) (hf : '[' ∉ front)
    (s : List Char) : Mild ('[' :: (name ++ ']' :: (front ++ escape s ++ '[' :: '/' :: (name ++ ']' :: t)))) := by
  obtain ⟨hopening, -⟩ := isBody_of_tagBody? hn.opening
  obtain ⟨hclosing, -⟩ := isBody_of_tagBody? hn.closing
  intro open_ acc
  have ht := tokensAux_mark (m := ⟨0, name⟩) hopening acc (front ++ escape s ++ '[' :: '/' :: (name ++ ']' :: t))
  simp only [Mark.text, List.replicate_zero, List.nil_append, List.cons_append, List.append_assoc] at ht
  rw [List.append_assoc, ht, tokensAux_front hs hf]
  -- A backslash of the text may keep the closing tag from closing; what follows shows in the style then.
  have hend : Harmless (styleName name :: open_) ('[' :: '/' :: (name ++ ']' :: t)) := by
    apply harmless_tag hclosing
    · rw [Shows, hn.closes]
      exact h open_ []
    · exact h _ []
  have htokens : (Mark.mk 0 name).tokens = [.tag name] := rfl
  rw [htokens]
  refine Shows.flush ?_ acc
  rw [Shows, List.singleton_append, hn.opens]
  exact shows_escape (by simp [bracket?, isBracket]) hend s _

variable {opening lead name front middle back closing t : List Char}

lemma between (h : Mild t) (hn : Closes name) (ho : opening = lead ++ '[' :: (name ++ ']' :: front))
    (hc : closing = '[' :: '/' :: (name ++ [']'])) (hs : '\\' ∉ lead ++ front) (hf : '[' ∉ lead ++ front)
    (s : List Char) : Mild (opening ++ escape s ++ closing ++ t) := by
  rw [List.mem_append, not_or] at hs hf
  have hstyled := (h.styled hn hs.2 hf.2 s).after hs.1 hf.1
  rw [ho, hc]
  simpa only [List.cons_append, List.append_assoc, List.nil_append] using hstyled

lemma plain (hn : Closes name) (ho : opening = '[' :: (name ++ ']' :: front))
    (hc : closing = back ++ '[' :: '/' :: (name ++ [']'])) (hs : '\\' ∉ front ++ (middle ++ back))
    (hf : '[' ∉ front ++ (middle ++ back)) : Mild (opening ++ middle ++ closing) := by
  have hstyled := Mild.nil.styled hn hs hf []
  have hnothing : escape [] = [] := rfl
  rw [ho, hc]
  simpa only [hnothing, List.cons_append, List.append_assoc, List.append_nil] using hstyled

lemma render {t : List Char} (h : Mild t) : ∃ shown, Markup.render t = .ok shown := render_of_shows (h [] [])

end Mild

theorem render_escape_styled {name front : List Char} (hn : Closes name) (hs : '\\' ∉ front) (hf : '[' ∉ front)
    (s : List Char) :
    ∃ shown, render ('[' :: (name ++ ']' :: (front ++ escape s ++ '[' :: '/' :: (name ++ [']'])))) = .ok shown :=
  (Mild.nil.styled hn hs hf s).render

end Shown

end ConfigKeeper.Console.Markup
