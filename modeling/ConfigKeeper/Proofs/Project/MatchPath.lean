import ConfigKeeper.Lint.Rule
import Mathlib.Data.List.Infix
import Mathlib.Tactic.TFAE

/-!
The form in which a rule's glob sees a path. What stands in front of a path, `./` and `/` in any mixture, is read
as a list; all of it is dropped exactly if no `./` follows a slash, and then the form is a normal one.
-/

namespace ConfigKeeper.MatchPath

inductive Lead
  | here
  | root
deriving DecidableEq

def Lead.text : Lead → List Char
  | .here => ['.', '/']
  | .root => ['/']

def leadsOf : List Char → List Lead
  | '.' :: '/' :: r => .here :: leadsOf r
  | '/' :: r => .root :: leadsOf r
  | _ => []

def behindLeads : List Char → List Char
  | '.' :: '/' :: r => behindLeads r
  | '/' :: r => behindLeads r
  | s => s

def slashed (path : String) : List Char := path.toList.map fun c => if c = '\\' then '/' else c

def leads (path : String) : List Lead := leadsOf (slashed path)

def core (path : String) : String := String.ofList (behindLeads (slashed path))

def kept (ls : List Lead) : List Lead := (ls.dropWhile (· = .here)).dropWhile (· = .root)

structure Bare (s : List Char) : Prop where
  here : ¬ ['.', '/'] <+: s
  root : ¬ ['/'] <+: s

structure IsNormal (path : String) : Prop where
  backslash : '\\' ∉ path.toList
  bare : Bare path.toList

variable {path : String} {s r : List Char}

section Leads

lemma spelled_leads (s : List Char) : (leadsOf s).flatMap Lead.text ++ behindLeads s = s := by
  fun_induction leadsOf s with
  | case1 r ih => rw [List.flatMap_cons, List.append_assoc, behindLeads, ih]; rfl
  | case2 r ih => rw [List.flatMap_cons, List.append_assoc, behindLeads, ih]; rfl
  | case3 s hhere hroot => rw [behindLeads.eq_3 s hhere hroot]; rfl

lemma bare_behindLeads (s : List Char) : Bare (behindLeads s) := by
  fun_induction behindLeads s with
  | case1 r ih => exact ih
  | case2 r ih => exact ih
  | case3 s hhere hroot =>
    refine ⟨?_, ?_⟩
    · rintro ⟨r, rfl⟩
      exact hhere r rfl
    · rintro ⟨r, rfl⟩
      exact hroot r rfl

lemma behindLeads_spelled (ls : List Lead) (s : List Char) :
    behindLeads (ls.flatMap Lead.text ++ s) = behindLeads s := by
  induction ls with
  | nil => rfl
  | cons l ls ih =>
    rw [List.flatMap_cons, List.append_assoc]
    cases l with
    | here => exact ih
    | root => exact ih

end Leads

section Drop

lemma dropHere_of_bare (h : Bare s) : dropHere s = s := by
  fun_cases dropHere s with
  | case1 r => exact absurd (List.prefix_append ['.', '/'] r) h.here
  | case2 => rfl

lemma dropWhile_of_bare (h : Bare s) : s.dropWhile (· = '/') = s := by
  cases s with
  | nil => rfl
  | cons c r =>
    refine List.dropWhile_cons_of_neg fun hc => h.root ?_
    rw [decide_eq_true_eq] at hc
    exact hc ▸ List.prefix_append ['/'] r

lemma dropHere_spelled (h : Bare s) (ls : List Lead) :
    dropHere (ls.flatMap Lead.text ++ s) = (ls.dropWhile (· = .here)).flatMap Lead.text ++ s := by
  induction ls with
  | nil => exact dropHere_of_bare h
  | cons l ls ih =>
    cases l with
    | here => exact ih
    | root => rfl

lemma dropSlashes_spelled (h : Bare s) (ls : List Lead) :
    (ls.flatMap Lead.text ++ s).dropWhile (· = '/') = (ls.dropWhile (· = .root)).flatMap Lead.text ++ s := by
  induction ls with
  | nil => exact dropWhile_of_bare h
  | cons l ls ih =>
    cases l with
    | here => rfl
    | root => exact ih

lemma form_eq (path : String) : (matchPath path).toList = (dropHere (slashed path)).dropWhile (· = '/') :=
  String.toList_ofList

lemma toList_matchPath (path : String) :
    (matchPath path).toList = (kept (leads path)).flatMap Lead.text ++ (core path).toList := by
  have hbare := bare_behindLeads (slashed path)
  rw [form_eq, core, String.toList_ofList, kept, leads, ← dropSlashes_spelled hbare, ← dropHere_spelled hbare,
    spelled_leads]

lemma dropHere_suffix (s : List Char) : dropHere s <:+ s := by
  fun_induction dropHere s with
  | case1 r ih => exact ih.trans (List.suffix_append ['.', '/'] r)
  | case2 => exact List.suffix_rfl

end Drop

section Kept

lemma kept_cases (ls : List Lead) : kept ls = [] ∨ ∃ more, kept ls = .here :: more := by
  cases h : kept ls with
  | nil => exact .inl rfl
  | cons l more =>
    have hl := List.head?_dropWhile_not (· = Lead.root) (ls.dropWhile (· = .here))
    rw [← kept, h] at hl
    cases l with
    | here => exact .inr ⟨more, rfl⟩
    | root => cases hl

lemma dropRoots_eq_nil_iff (ls : List Lead) :
    ls.dropWhile (· = .root) = [] ↔ ¬ [Lead.root, .here] <:+: .root :: ls := by
  induction ls with
  | nil => decide
  | cons l ls ih =>
    cases l with
    | here =>
      -- the `./` that stays is the one behind the slash in front
      refine iff_of_false (by simp) (not_not.2 ?_)
      exact ⟨[], ls, rfl⟩
    | root =>
      rw [List.infix_cons_iff, not_or]
      exact ih.trans (and_iff_right (by simp)).symm

lemma kept_eq_nil_iff (ls : List Lead) : kept ls = [] ↔ ¬ [Lead.root, .here] <:+: ls := by
  induction ls with
  | nil => decide
  | cons l ls ih =>
    cases l with
    | here =>
      rw [List.infix_cons_iff, not_or]
      exact ih.trans (and_iff_right (by simp)).symm
    | root => exact dropRoots_eq_nil_iff ls

end Kept

section Form

lemma backslash_not_mem_slashed (path : String) : '\\' ∉ slashed path := by
  rw [slashed, List.mem_map]
  rintro ⟨c, -, hc⟩
  split at hc
  · cases hc
  · next hne => exact hne hc

lemma slashed_of_not_mem (h : '\\' ∉ path.toList) : slashed path = path.toList := by
  rw [slashed]
  refine (List.map_congr_left fun c hc => if_neg ?_).trans (List.map_id _)
  rintro rfl
  exact h hc

lemma backslash_not_mem_matchPath (path : String) : '\\' ∉ (matchPath path).toList := by
  have hsuffix : (matchPath path).toList <:+ slashed path := by
    rw [form_eq]
    exact (List.dropWhile_suffix _).trans (dropHere_suffix _)
  exact fun h => backslash_not_mem_slashed path (hsuffix.subset h)

lemma isNormal_core (path : String) : IsNormal (core path) := by
  rw [core]
  refine ⟨?_, ?_⟩ <;> rw [String.toList_ofList]
  · refine fun h => backslash_not_mem_slashed path ?_
    rw [← spelled_leads (slashed path)]
    exact List.mem_append_right _ h
  · exact bare_behindLeads _

lemma matchPath_of_isNormal (h : IsNormal path) : matchPath path = path := by
  apply String.toList_injective
  rw [form_eq, slashed_of_not_mem h.backslash, dropHere_of_bare h.bare, dropWhile_of_bare h.bare]

lemma slashed_append (front path : String) : slashed (front ++ path) = slashed front ++ slashed path := by
  rw [slashed, String.toList_append, List.map_append]
  rfl

lemma core_append {front : String} (h : core front = "") (path : String) : core (front ++ path) = core path := by
  have hfront : slashed front = (leads front).flatMap Lead.text := by
    have hnone : behindLeads (slashed front) = [] := by
      rw [← String.toList_ofList (l := behindLeads (slashed front)), ← core, h]
      rfl
    have hspelled := spelled_leads (slashed front)
    rw [hnone, List.append_nil] at hspelled
    exact hspelled.symm
  rw [core, slashed_append, hfront, behindLeads_spelled, ← core]

lemma matchPath_ne_of_here (hb : '\\' ∉ path.toList) (h : path.toList = '.' :: '/' :: r) : matchPath path ≠ path := by
  intro hfix
  -- the form gets shorter by at least the `./`
  have hle : ((dropHere r).dropWhile (· = '/')).length ≤ r.length :=
    (List.dropWhile_suffix _).length_le.trans (dropHere_suffix r).length_le
  have hform := form_eq path
  rw [hfix, slashed_of_not_mem hb, h, dropHere] at hform
  rw [← hform, List.length_cons, List.length_cons] at hle
  omega

lemma matchPath_of_kept_nil (h : kept (leads path) = []) : matchPath path = core path := by
  have hform := toList_matchPath path
  rw [h, List.flatMap_nil, List.nil_append] at hform
  exact String.toList_injective hform

lemma matchPath_of_kept_here {more : List Lead} (h : kept (leads path) = .here :: more) :
    ∃ r, (matchPath path).toList = '.' :: '/' :: r := by
  refine ⟨more.flatMap Lead.text ++ (core path).toList, ?_⟩
  rw [toList_matchPath, h, List.flatMap_cons, List.append_assoc]
  rfl

/-- The form of a path has forward slashes only and does not begin with one. It is normal, and does not change any
more, exactly if nothing is left in front of the path, however much that was; and this is so exactly if no `./`
follows a slash there. A rule then looks at the path alone. -/
theorem matchPath_tfae (path : String) :
    ('\\' ∉ (matchPath path).toList ∧ ¬ ['/'] <+: (matchPath path).toList) ∧
      (∀ front, core front = "" → core (front ++ path) = core path) ∧
      [IsNormal (matchPath path), matchPath (matchPath path) = matchPath path, matchPath path = core path,
        ¬ [Lead.root, .here] <:+: leads path].TFAE ∧
      (¬ [Lead.root, .here] <:+: leads path → ∀ rule : Lint.Rule,
        rule.appliesTo path = Wildcard.selects rule.patterns (core path)) := by
  have hbackslash := backslash_not_mem_matchPath path
  refine ⟨⟨hbackslash, ?_⟩, fun front hfront => core_append hfront path, ?_, fun h rule => ?_⟩
  · rcases kept_cases (leads path) with hkept | ⟨more, hkept⟩
    · rw [matchPath_of_kept_nil hkept]
      exact (isNormal_core path).bare.root
    · obtain ⟨r, hform⟩ := matchPath_of_kept_here hkept
      rw [hform]
      simp
  · tfae_have 4 → 3 := fun h => matchPath_of_kept_nil ((kept_eq_nil_iff _).2 h)
    tfae_have 3 → 1 := fun h => h ▸ isNormal_core path
    tfae_have 1 → 2 := matchPath_of_isNormal
    -- a lead that is kept is a `./` at the front, which a second reading drops
    tfae_have 2 → 4 := by
      intro h
      rw [← kept_eq_nil_iff]
      refine (kept_cases (leads path)).resolve_right ?_
      rintro ⟨more, hkept⟩
      obtain ⟨r, hform⟩ := matchPath_of_kept_here hkept
      exact matchPath_ne_of_here hbackslash hform h
    tfae_finish
  · rw [Lint.Rule.appliesTo, matchPath_of_kept_nil ((kept_eq_nil_iff _).2 h)]

theorem here_uncovered : ¬ IsNormal (matchPath "/./config/dev.exs") ∧
    matchPath (matchPath "/./config/dev.exs") ≠ matchPath "/./config/dev.exs" := by
  have hform : matchPath "/./config/dev.exs" = "./config/dev.exs" := by decide +kernel
  rw [hform]
  refine ⟨fun h => h.bare.here ?_, by decide +kernel⟩
  exact ⟨"config/dev.exs".toList, by decide +kernel⟩

end Form

end ConfigKeeper.MatchPath
