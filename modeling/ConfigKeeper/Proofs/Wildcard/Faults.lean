import ConfigKeeper.Wildcard.Selection
import Mathlib.Tactic

/-!
Which lines are refused as patterns. Lines are read from left to right, and what is refused is a lone mark of
negation, an escape that nothing follows in its segment, and a class with a span that runs backwards, unless a
class that is left open discards the line before.
-/

namespace ConfigKeeper.Wildcard

inductive Backward : List Char → Prop
  | here {c d : Char} (h : d < c) (r : List Char) : Backward (c :: '-' :: d :: r)
  | pastSpan {r : List Char} (c d : Char) (h : Backward r) : Backward (c :: '-' :: d :: r)
  | past {c : Char} {r : List Char} (hspan : ∀ d more, r ≠ '-' :: d :: more) (h : Backward r) : Backward (c :: r)

inductive IsClass : List Char → List Char → Prop
  | plain {first : Char} {more : List Char} (hfirst : first ≠ '!' ∧ first ≠ '^') (hmore : ']' ∉ more) :
      IsClass ('[' :: first :: (more ++ [']'])) (first :: more)
  | negated {sign first : Char} {more : List Char} (hsign : sign = '!' ∨ sign = '^') (hmore : ']' ∉ more) :
      IsClass ('[' :: sign :: first :: (more ++ [']'])) (first :: more)

inductive Token : List Char → Prop
  | plain {c : Char} (hescape : c ≠ '\\') (hclass : c ≠ '[') : Token [c]
  | escaped (c : Char) : Token ['\\', c]
  | members {text body : List Char} (h : IsClass text body) (hforward : ¬ Backward body) : Token text

def Complete (s : List Char) : Prop := ∃ ts : List (List Char), (∀ t ∈ ts, Token t) ∧ s = ts.flatten

def Fault (rest : List Char) : Prop :=
  rest = ['\\'] ∨ ∃ text body after, rest = text ++ after ∧ IsClass text body ∧ Backward body

def Broken (s : List Char) : Prop :=
  ∃ (ts : List (List Char)) (rest : List Char), (∀ t ∈ ts, Token t) ∧ Fault rest ∧ s = ts.flatten ++ rest

inductive Refused : List (List Char) → Prop
  | here {s : List Char} (h : Broken s) (segs : List (List Char)) : Refused (s :: segs)
  | later {s : List Char} {segs : List (List Char)} (h : Complete s) (hsegs : Refused segs) : Refused (s :: segs)

def IsRefused (line : List Char) : Prop :=
  match withoutTrailingBlanks line with
  | '#' :: _ => False
  | '!' :: text => text = [] ∨ Refused (Text.splitAt '/' text)
  | text => Refused (Text.splitAt '/' text)

variable {s t text body rest : List Char} {ts segs : List (List Char)}

section Classes

lemma classItems_cases (body : List Char) :
    (Backward body ∧ ∃ f, classItems body = .error f) ∨ (¬ Backward body ∧ ∃ items, classItems body = .ok items) := by
  fun_induction classItems body with
  | case1 => exact .inr ⟨by rintro ⟨⟩, _, rfl⟩
  | case2 c => exact .inr ⟨by rintro (_ | _ | ⟨_, ⟨⟩⟩), _, rfl⟩
  | case3 c d => exact .inr ⟨by rintro (_ | _ | ⟨_, (_ | _ | ⟨_, ⟨⟩⟩)⟩), _, rfl⟩
  | case4 c d r h => exact .inl ⟨.here h r, _, rfl⟩
  | case5 c d r h ih =>
    rcases ih with ⟨hr, f, hf⟩ | ⟨hr, items, hitems⟩
    · exact .inl ⟨.pastSpan c d hr, f, by rw [hf]; rfl⟩
    · refine .inr ⟨?_, _, by rw [hitems]; rfl⟩
      rintro (⟨hd, -⟩ | ⟨-, -, hd⟩ | ⟨hspan, -⟩)
      · exact h hd
      · exact hr hd
      · exact hspan d r rfl
  | case6 c r hone htwo hspan ih =>
    rcases ih with ⟨hr, f, hf⟩ | ⟨hr, items, hitems⟩
    · exact .inl ⟨.past (fun d more hmore => hspan d more hmore) hr, f, by rw [hf]; rfl⟩
    · refine .inr ⟨?_, _, by rw [hitems]; rfl⟩
      rintro (hd | hd | ⟨-, hd⟩)
      · exact hspan _ _ rfl
      · exact hspan _ _ rfl
      · exact hr hd

lemma classBody_false_iff : classBody false s = some (body, rest) ↔ s = body ++ ']' :: rest ∧ ']' ∉ body := by
  induction s generalizing body rest with
  | nil => simp [classBody]
  | cons c s ih =>
    rw [classBody]
    by_cases hc : c = ']'
    · subst hc
      cases body with
      | nil => simp
      | cons d body =>
        simp only [Bool.not_false, decide_true, Bool.and_self, if_true, List.cons_append, List.cons.injEq]
        refine iff_of_false (by simp) ?_
        rintro ⟨⟨rfl, -⟩, hbody⟩
        exact hbody (.head body)
    · rw [if_neg (by simpa using hc)]
      cases body with
      | nil => simp [hc]
      | cons d body =>
        simp only [Option.map_eq_some_iff, Prod.exists, Prod.mk.injEq, List.cons.injEq, List.cons_append, ih]
        constructor
        · rintro ⟨a, b, ⟨rfl, ha⟩, ⟨rfl, rfl⟩, rfl⟩
          exact ⟨⟨rfl, rfl⟩, List.not_mem_cons_of_ne_of_not_mem (Ne.symm hc) ha⟩
        · rintro ⟨⟨rfl, rfl⟩, hbody⟩
          exact ⟨body, rest, ⟨rfl, fun h => hbody (.tail _ h)⟩, ⟨rfl, rfl⟩, rfl⟩

lemma classBody_iff : classBody true s = some (body, rest) ↔
    ∃ first more, body = first :: more ∧ s = first :: (more ++ ']' :: rest) ∧ ']' ∉ more := by
  cases s with
  | nil => simp [classBody]
  | cons c s =>
    rw [classBody, if_neg (by simp)]
    simp only [Option.map_eq_some_iff, Prod.exists, Prod.mk.injEq, classBody_false_iff, List.cons.injEq]
    constructor
    · rintro ⟨more, _, ⟨rfl, hmore⟩, rfl, rfl⟩
      exact ⟨c, more, rfl, ⟨rfl, rfl⟩, hmore⟩
    · rintro ⟨first, more, rfl, ⟨rfl, rfl⟩, hmore⟩
      exact ⟨more, rest, ⟨rfl, hmore⟩, rfl, rfl⟩

lemma classBody_of_not_mem {more : List Char} (hmore : ']' ∉ more) (first : Char) (rest : List Char) :
    classBody true (first :: (more ++ ']' :: rest)) = some (first :: more, rest) :=
  classBody_iff.2 ⟨first, more, rfl, rfl, hmore⟩

end Classes

section Globs

lemma globPieces_class (h : IsClass text body) : ∃ negated, ∀ fuel s,
    (∀ f, classItems body = .error f → globPieces (fuel + 1) (text ++ s) = .error f) ∧
      ∀ items, classItems body = .ok items →
        globPieces (fuel + 1) (text ++ s) = Option.map (.oneOf negated items :: ·) <$> globPieces fuel s := by
  cases h with
  | plain hfirst hmore =>
    have hbody := classBody_of_not_mem hmore
    refine ⟨false, fun fuel s => ⟨fun f hf => ?_, fun items hitems => ?_⟩⟩
    · simp [globPieces, hfirst.1, hfirst.2, hbody, hf]
    · simp [globPieces, hfirst.1, hfirst.2, hbody, hitems]
  | negated hsign hmore =>
    have hbody := classBody_of_not_mem hmore
    refine ⟨true, fun fuel s => ⟨fun f hf => ?_, fun items hitems => ?_⟩⟩
    · rcases hsign with rfl | rfl <;> simp [globPieces, hbody, hf]
    · rcases hsign with rfl | rfl <;> simp [globPieces, hbody, hitems]

lemma globPieces_token (ht : Token t) : ∃ p, ∀ fuel s,
    globPieces (fuel + 1) (t ++ s) = Option.map (p :: ·) <$> globPieces fuel s := by
  cases ht with
  | @plain c hescape hclass =>
    by_cases hrun : c = '*'
    · exact ⟨.anyRun, fun fuel s => by simp [globPieces, hrun]⟩
    · by_cases hany : c = '?'
      · exact ⟨.anyChar, fun fuel s => by simp [globPieces, hany]⟩
      · exact ⟨.literal c, fun fuel s => by simp [globPieces, hescape, hclass, hrun, hany]⟩
  | escaped c => exact ⟨.literal c, fun fuel s => by simp [globPieces]⟩
  | @members _ body h hforward =>
    obtain ⟨hbackward, -⟩ | ⟨-, items, hitems⟩ := classItems_cases body
    · exact absurd hbackward hforward
    · obtain ⟨negated, hclass⟩ := globPieces_class h
      exact ⟨.oneOf negated items, fun fuel s => (hclass fuel s).2 items hitems⟩

lemma globPieces_fault (h : Fault rest) (fuel : ℕ) : ∃ f, globPieces (fuel + 1) rest = .error f := by
  obtain rfl | ⟨text, body, after, rfl, hclass, hbackward⟩ := h
  · exact ⟨.danglingEscape, by simp [globPieces]⟩
  · obtain ⟨-, f, hf⟩ | ⟨hforward, -⟩ := classItems_cases body
    · obtain ⟨negated, hpieces⟩ := globPieces_class hclass
      exact ⟨f, (hpieces fuel after).1 f hf⟩
    · exact absurd hbackward hforward

lemma closed_or_open (r : List Char) :
    (∃ text body s, IsClass text body ∧ '[' :: r = text ++ s) ∨
      ∀ fuel, globPieces (fuel + 1) ('[' :: r) = .ok none := by
  cases r with
  | nil => exact .inr fun fuel => by simp [globPieces, classBody]
  | cons c r =>
    by_cases hsign : c = '!' ∨ c = '^'
    · cases hbody : classBody true r with
      | none =>
        refine .inr fun fuel => ?_
        rcases hsign with rfl | rfl <;> simp [globPieces, hbody]
      | some p =>
        obtain ⟨first, more, -, rfl, hmore⟩ := classBody_iff.1 hbody
        have h : IsClass ('[' :: c :: first :: (more ++ [']'])) (first :: more) := .negated hsign hmore
        exact .inl ⟨_, _, p.2, h, by simp⟩
    · cases hbody : classBody true (c :: r) with
      | none => exact .inr fun fuel => by simp [globPieces, not_or.1 hsign, hbody]
      | some p =>
        obtain ⟨first, more, -, heq, hmore⟩ := classBody_iff.1 hbody
        obtain ⟨rfl, rfl⟩ := List.cons.inj heq
        exact .inl ⟨_, _, p.2, .plain (not_or.1 hsign) hmore, by simp⟩

lemma token_cases (c : Char) (r : List Char) :
    (∃ t s, Token t ∧ c :: r = t ++ s) ∨ Fault (c :: r) ∨ ∀ fuel, globPieces (fuel + 1) (c :: r) = .ok none := by
  by_cases hescape : c = '\\'
  · subst hescape
    cases r with
    | nil => exact .inr (.inl (.inl rfl))
    | cons d s => exact .inl ⟨['\\', d], s, .escaped d, rfl⟩
  by_cases hclass : c = '['
  · subst hclass
    obtain ⟨text, body, s, h, heq⟩ | hopen := closed_or_open r
    · by_cases hbackward : Backward body
      · exact .inr (.inl (.inr ⟨text, body, s, heq, h, hbackward⟩))
      · exact .inl ⟨text, s, .members h hbackward, heq⟩
    · exact .inr (.inr hopen)
  · exact .inl ⟨[c], r, .plain hescape hclass, rfl⟩

lemma globPieces_tokens (hts : ∀ t ∈ ts, Token t) : ∃ ps, ∀ fuel s,
    globPieces (ts.length + fuel) (ts.flatten ++ s) = Option.map (ps ++ ·) <$> globPieces fuel s := by
  induction ts with
  | nil => exact ⟨[], fun fuel s => by simp⟩
  | cons t ts ih =>
    rw [List.forall_mem_cons] at hts
    obtain ⟨p, hp⟩ := globPieces_token hts.1
    obtain ⟨ps, hps⟩ := ih hts.2
    refine ⟨p :: ps, fun fuel s => ?_⟩
    rw [List.length_cons, Nat.add_right_comm, List.flatten_cons, List.append_assoc, hp, hps, ← LawfulFunctor.comp_map]
    exact congrArg (· <$> _) (funext fun o => by cases o <;> rfl)

lemma Token.ne_nil (h : Token t) : t ≠ [] := by
  cases h with
  | plain | escaped => exact List.cons_ne_nil _ _
  | members h => cases h <;> exact List.cons_ne_nil _ _

lemma length_le_flatten (hts : ∀ t ∈ ts, Token t) : ts.length ≤ ts.flatten.length := by
  induction ts with
  | nil => exact le_rfl
  | cons t ts ih =>
    rw [List.forall_mem_cons] at hts
    have ht := List.length_pos_of_ne_nil hts.1.ne_nil
    have hrest := ih hts.2
    simp only [List.length_cons, List.flatten_cons, List.length_append]
    omega

lemma Complete.cons (ht : Token t) (h : Complete s) : Complete (t ++ s) := by
  obtain ⟨ts, hts, rfl⟩ := h
  exact ⟨t :: ts, List.forall_mem_cons.2 ⟨ht, hts⟩, rfl⟩

lemma Broken.cons (ht : Token t) (h : Broken s) : Broken (t ++ s) := by
  obtain ⟨ts, rest, hts, hrest, rfl⟩ := h
  exact ⟨t :: ts, rest, List.forall_mem_cons.2 ⟨ht, hts⟩, hrest, (List.append_assoc ..).symm⟩

lemma globPieces_complete (h : Complete s) : ∃ ps, globPieces (s.length + 1) s = .ok (some ps) := by
  obtain ⟨ts, hts, rfl⟩ := h
  obtain ⟨ps, hps⟩ := globPieces_tokens hts
  obtain ⟨spare, hspare⟩ := Nat.exists_eq_add_of_le (length_le_flatten hts)
  have hread := hps (spare + 1) []
  rw [← Nat.add_assoc, ← hspare, List.append_nil] at hread
  exact ⟨ps ++ [], hread⟩

lemma globPieces_broken (h : Broken s) : ∃ f, globPieces (s.length + 1) s = .error f := by
  obtain ⟨ts, rest, hts, hrest, rfl⟩ := h
  obtain ⟨ps, hps⟩ := globPieces_tokens hts
  have hlength := length_le_flatten hts
  obtain ⟨spare, hspare⟩ := Nat.exists_eq_add_of_le (hlength.trans (Nat.le_add_right _ rest.length))
  obtain ⟨f, hf⟩ := globPieces_fault hrest spare
  refine ⟨f, ?_⟩
  rw [List.length_append, hspare, Nat.add_assoc, hps, hf]
  rfl

lemma complete_or_broken {fuel : ℕ} (hs : s.length < fuel) : Complete s ∨ Broken s ∨ globPieces fuel s = .ok none := by
  induction fuel generalizing s with
  | zero => exact absurd hs (Nat.not_lt_zero _)
  | succ fuel ih =>
    cases s with
    | nil => exact .inl ⟨[], List.forall_mem_nil _, rfl⟩
    | cons c r =>
      obtain ⟨t, rest, ht, heq⟩ | hfault | hopen := token_cases c r
      · have hlength := congrArg List.length heq
        have hpos := List.length_pos_of_ne_nil ht.ne_nil
        rw [List.length_append] at hlength
        rw [heq]
        obtain hcomplete | hbroken | hopen := ih (s := rest) (by omega)
        · exact .inl (hcomplete.cons ht)
        · exact .inr (.inl (hbroken.cons ht))
        · obtain ⟨p, hp⟩ := globPieces_token ht
          exact .inr (.inr (by rw [hp, hopen]; rfl))
      · exact .inr (.inl ⟨[], _, List.forall_mem_nil _, hfault, rfl⟩)
      · exact .inr (.inr (hopen fuel))

lemma Complete.not_broken (h : Complete s) : ¬ Broken s := by
  intro hbroken
  obtain ⟨ps, hps⟩ := globPieces_complete h
  obtain ⟨f, hf⟩ := globPieces_broken hbroken
  cases hps.symm.trans hf

end Globs

section Segments

lemma complete_directories : Complete ['*', '*'] :=
  ⟨[['*'], ['*']], by simpa using Token.plain (by decide) (by decide), rfl⟩

lemma complete_wholeName : Complete ['*'] := ⟨[['*']], by simpa using Token.plain (by decide) (by decide), rfl⟩

lemma complete_nil : Complete [] := ⟨[], List.forall_mem_nil _, rfl⟩

lemma segmentOf_complete (h : Complete s) : ∃ g, segmentOf s = .ok (some g) := by
  rw [segmentOf]
  split_ifs
  · exact ⟨_, rfl⟩
  · exact ⟨_, rfl⟩
  · obtain ⟨ps, hps⟩ := globPieces_complete h
    exact ⟨.glob ps, by rw [hps]; rfl⟩

lemma segmentOf_broken (h : Broken s) : ∃ f, segmentOf s = .error f := by
  obtain ⟨f, hf⟩ := globPieces_broken h
  rw [segmentOf, if_neg, if_neg, hf]
  · exact ⟨f, rfl⟩
  · rintro rfl
    exact complete_wholeName.not_broken h
  · rintro rfl
    exact complete_directories.not_broken h

lemma segmentOf_open (hcomplete : ¬ Complete s) (hbroken : ¬ Broken s) : segmentOf s = .ok none := by
  rw [segmentOf, if_neg, if_neg]
  · obtain h | h | hopen := complete_or_broken (Nat.lt_succ_self s.length)
    · exact absurd h hcomplete
    · exact absurd h hbroken
    · rw [hopen]
      rfl
  · rintro rfl
    exact hcomplete complete_wholeName
  · rintro rfl
    exact hcomplete complete_directories

lemma refused_cons : Refused (s :: segs) ↔ Broken s ∨ Complete s ∧ Refused segs := by
  constructor
  · rintro (⟨hs, -⟩ | ⟨hs, hsegs⟩)
    · exact .inl hs
    · exact .inr ⟨hs, hsegs⟩
  · rintro (hs | ⟨hs, hsegs⟩)
    · exact .here hs segs
    · exact .later hs hsegs

lemma refused_complete_cons (h : Complete s) : Refused (s :: segs) ↔ Refused segs := by
  rw [refused_cons, or_iff_right h.not_broken, and_iff_right h]

lemma not_refused_nil : ¬ Refused [] := by rintro ⟨⟩

lemma segmentsOf_error_iff : (∃ f, segmentsOf segs = .error f) ↔ Refused segs := by
  induction segs with
  | nil => exact iff_of_false (by simp [segmentsOf]) not_refused_nil
  | cons s segs ih =>
    rw [segmentsOf]
    by_cases hcomplete : Complete s
    · obtain ⟨g, hg⟩ := segmentOf_complete hcomplete
      rw [hg, refused_complete_cons hcomplete, ← ih]
      cases segmentsOf segs <;> simp
    by_cases hbroken : Broken s
    · obtain ⟨f, hf⟩ := segmentOf_broken hbroken
      rw [hf]
      exact iff_of_true ⟨f, rfl⟩ (.here hbroken segs)
    · rw [segmentOf_open hcomplete hbroken, refused_cons]
      exact iff_of_false (by simp) (by simp [hcomplete, hbroken])

end Segments

section Completed

lemma refused_mergeDirectories : Refused (mergeDirectories segs) ↔ Refused segs := by
  fun_induction mergeDirectories segs with
  | case1 r ih => exact ih.trans (refused_complete_cons complete_directories).symm
  | case2 s r hne ih => rw [refused_cons, refused_cons, ih]
  | case3 => rfl

lemma refused_append (h : Complete s) : Refused (segs ++ [s]) ↔ Refused segs := by
  induction segs with
  | nil => exact refused_complete_cons h
  | cons s' segs ih => rw [List.cons_append, refused_cons, refused_cons, ih]

lemma refused_completed (segs : List (List Char)) : Refused (completed segs) ↔ Refused segs := by
  have hended : ∀ l : List (List Char),
      Refused (if l.getLast? = some [] then l.dropLast ++ [['*', '*']] else l) ↔ Refused l := by
    intro l
    split_ifs with hl
    · obtain ⟨front, rfl⟩ := List.getLast?_eq_some_iff.1 hl
      rw [List.dropLast_concat, refused_append complete_directories, refused_append complete_nil]
    · rfl
  unfold completed
  dsimp only
  rw [refused_mergeDirectories, hended]
  split
  · exact (refused_complete_cons complete_nil).symm
  · split_ifs
    · rfl
    · exact refused_complete_cons complete_directories
  · split_ifs
    · rfl
    · exact refused_complete_cons complete_directories
  · rfl

lemma mergeDirectories_eq_nil_iff : mergeDirectories segs = [] ↔ segs = [] := by
  fun_induction mergeDirectories segs with
  | case1 r ih => simp [ih]
  | case2 | case3 => simp

lemma completed_eq_nil_iff (hsegs : segs ≠ []) : completed segs = [] ↔ segs = [[]] := by
  have hended : ∀ l : List (List Char),
      (if l.getLast? = some [] then l.dropLast ++ [['*', '*']] else l) = [] ↔ l = [] := by
    intro l
    split_ifs with hl
    · refine iff_of_false (by simp) ?_
      rintro rfl
      cases hl
    · rfl
  unfold completed
  dsimp only
  rw [mergeDirectories_eq_nil_iff, hended]
  split
  · simp
  · next s hs =>
    split_ifs <;> simpa using hs
  · split_ifs <;> simp
  · next h hone htwo => exact iff_of_false hsegs (by rintro rfl; exact h [] rfl)

end Completed

section Lines

lemma splitAt_eq_singleton_nil_iff : Text.splitAt '/' text = [[]] ↔ text = [] := by
  constructor
  · intro h
    have hjoin := Text.joinWith_splitAt '/' text
    rw [h] at hjoin
    exact hjoin.symm
  · rintro rfl
    rfl

lemma shapeOf_error_iff : (∃ f, shapeOf text = .error f) ↔ text = [] ∨ Refused (Text.splitAt '/' text) := by
  rw [← splitAt_eq_singleton_nil_iff, ← completed_eq_nil_iff (Text.splitAt_ne_nil '/' text),
    ← refused_completed, shapeOf]
  have hdirectories := complete_directories
  have hname := complete_wholeName
  split
  · next h => exact iff_of_true ⟨_, rfl⟩ (.inl h)
  · next h => simp [h, refused_complete_cons hdirectories, not_refused_nil]
  · next h => simp [h, refused_complete_cons hdirectories, refused_complete_cons hname, not_refused_nil]
  · next h => simp [h, refused_complete_cons hdirectories, refused_complete_cons hname, not_refused_nil]
  · next segs hne _ _ _ =>
    rw [or_iff_right hne, ← segmentsOf_error_iff]
    cases segmentsOf (completed (Text.splitAt '/' text)) <;> simp

lemma ofLine_error_iff {line : List Char} : (∃ f, Pattern.ofLine line = .error f) ↔ IsRefused line := by
  have hnil : ¬ Refused (Text.splitAt '/' []) := by
    simp [Text.splitAt, refused_complete_cons complete_nil, not_refused_nil]
  have hslash : ¬ Refused (Text.splitAt '/' ['/']) := by
    simp [Text.splitAt, refused_complete_cons complete_nil, not_refused_nil]
  rw [Pattern.ofLine, IsRefused]
  generalize withoutTrailingBlanks line = trimmed
  split
  · exact iff_of_false (by simp) hnil
  · exact iff_of_false (by simp) hslash
  · exact iff_of_false (by simp) id
  · next text =>
    refine Iff.trans ?_ shapeOf_error_iff
    cases shapeOf text <;> simp
  · next hne _ hcomment hbang =>
    -- a line with a text is refused for its segments only
    have hread : (∃ f, shapeOf trimmed = .error f) ↔ trimmed = [] ∨ Refused (Text.splitAt '/' trimmed) :=
      shapeOf_error_iff
    rw [or_iff_right hne] at hread
    split
    · exact absurd rfl (hcomment _)
    · exact absurd rfl (hbang _)
    · rw [← hread]
      cases shapeOf trimmed <;> simp

instance (line : List Char) : Decidable (IsRefused line) :=
  decidable_of_iff ((Pattern.ofLine line).isOk = false) (by
    rw [← ofLine_error_iff]
    cases Pattern.ofLine line <;> simp [Except.isOk, Except.toBool])

example : IsRefused "!".toList ∧ IsRefused "a/b\\".toList ∧ IsRefused "[z-a]".toList ∧ ¬ IsRefused "[z-a".toList := by
  decide

theorem ofLines_error_iff {lines : List String} :
    (∃ f, ofLines lines = .error f) ↔ ∃ line ∈ lines, IsRefused line.toList := by
  induction lines with
  | nil => simp [ofLines]
  | cons line lines ih =>
    rw [ofLines, List.exists_mem_cons_iff, ← ih, ← ofLine_error_iff]
    rcases Pattern.ofLine line.toList with f | _ | p
    · simp
    · simp
    · cases ofLines lines <;> simp

end Lines

end ConfigKeeper.Wildcard
