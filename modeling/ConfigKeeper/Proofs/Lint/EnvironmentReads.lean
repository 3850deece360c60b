import ConfigKeeper.Proofs.Elixir.Imports
import ConfigKeeper.Proofs.Lint.Reported

/-!
Reads of environment variables. Each is reported once, when the text first shows it: at the first plain piece
of the name, or at the block of the call if it has one. A read within the name may be shown before.
-/

namespace ConfigKeeper.Elixir

variable {t u : Tree} {s target module function : Spot} {i : ℕ} {p : List ℕ}

structure EnvironmentFunction (target module function : Spot) : Prop where
  kind : target.kind = .dot
  first : target.firstPart? = some module
  last : target.lastPart? = some function
  isModule : module.kind = .moduleName ∧ module.text = environmentModule
  isFunction : function.kind = .identifier ∧ function.text ∈ environmentFunctions

/-- A call of such a function whose first argument is a string with a plain piece. -/
structure ReadsEnvironment (s : Spot) : Prop where
  kind : s.kind = .call
  target : ∃ target module function, s.firstPart? = some target ∧ EnvironmentFunction target module function
  name : ∃ args string, s.childOfKind? .arguments = some args ∧ args.namedChildren.head? = some string ∧
    string.kind = .string ∧ ∃ p, p ∈ pieces string

lemma isEnvironmentRead_iff : isEnvironmentRead s = true ↔ ReadsEnvironment s := by
  rw [isEnvironmentRead, Bool.and_eq_true, Bool.and_eq_true, decide_eq_true_eq]
  constructor
  · rintro ⟨⟨hkind, htarget⟩, hname⟩
    refine ⟨hkind, ?_, ?_⟩
    · split at htarget
      · next target hfirst =>
        rw [Bool.and_eq_true, decide_eq_true_eq] at htarget
        obtain ⟨hdot, htarget⟩ := htarget
        split at htarget
        · next m f hm hf =>
          simp only [Bool.and_eq_true, decide_eq_true_eq, List.contains_iff_mem] at htarget
          obtain ⟨⟨⟨hmk, hmt⟩, hfk⟩, hft⟩ := htarget
          exact ⟨target, m, f, hfirst, hdot, hm, hf, ⟨hmk, hmt⟩, hfk, hft⟩
        · cases htarget
      · cases htarget
    · split at hname
      · next args hargs =>
        split at hname
        · next string hstring =>
          simp only [Bool.and_eq_true, decide_eq_true_eq, Bool.not_eq_true',
            List.isEmpty_eq_false_iff_exists_mem] at hname
          exact ⟨args, string, hargs, hstring, hname.1, hname.2⟩
        · cases hname
      · cases hname
  · rintro ⟨hkind, ⟨target, m, f, hfirst, hdot, hm, hf, hmodule, hfunction⟩, args, string, hargs, hstring, hk, hpiece⟩
    refine ⟨⟨hkind, ?_⟩, ?_⟩
    · simp [hfirst, hdot, hm, hf, hmodule, hfunction]
    · simpa [hargs, hstring, hk, List.eq_nil_iff_forall_not_mem] using hpiece

section Lengths

lemma EnvironmentFunction.length (h : EnvironmentFunction target module function) :
    module.tree.text.length = 6 ∧ 6 < target.tree.text.length := by
  have hmodule : module.tree.text.length = 6 := by
    rw [Tree.length_text, h.isModule.2]
    rfl
  have hfunction : 0 < function.tree.text.length := by
    have hname (name : String) (hname : name ∈ environmentFunctions) : 0 < name.length := by
      revert name
      decide
    rw [Tree.length_text]
    exact hname _ h.isFunction.2
  have hkind : module.kind ≠ function.kind := by
    rw [h.isModule.1, h.isFunction.1]
    decide
  have hroom := Tree.length_add_le_of_mem (mem_children_of_firstPart? h.first) (mem_children_of_lastPart? h.last) hkind
  exact ⟨hmodule, by omega⟩

lemma ReadsEnvironment.length (h : ReadsEnvironment s) : 6 < s.tree.text.length := by
  obtain ⟨target, module, function, hfirst, hfunction⟩ := h.target
  exact hfunction.length.2.trans_le (Tree.length_le_of_mem (mem_children_of_firstPart? hfirst))

lemma ReadsEnvironment.length_lt (ht : ReadsEnvironment t.spot) (hu : ReadsEnvironment u.spot)
    (h : t.at? (i :: p) = some u) : u.text.length < t.text.length := by
  have hle {v : Tree} {q : List ℕ} (hv : v.at? q = some u) : u.text.length ≤ v.text.length :=
    (Nat.le_add_left _ _).trans (Tree.stop_le hv)
  obtain ⟨target, module, function, hfirst, hfunction⟩ := ht.target
  obtain ⟨hmodule, htarget⟩ := hfunction.length
  obtain ⟨c, hc, hcu⟩ := Option.bind_eq_some_iff.1 h
  obtain ⟨j, hj⟩ := Tree.exists_getElem?_of_mem (mem_children_of_firstPart? hfirst)
  by_cases hij : i = j
  · obtain rfl : target.tree = c := Option.some.inj (hj.symm.trans (hij ▸ hc))
    cases p with
    | nil =>
      obtain rfl := Option.some.inj hcu
      exact absurd (hu.kind.symm.trans hfunction.kind) (by decide)
    | cons k q =>
      obtain ⟨d, hd, hdu⟩ := Option.bind_eq_some_iff.1 hcu
      obtain ⟨l, hl⟩ := Tree.exists_getElem?_of_mem (mem_children_of_firstPart? hfunction.first)
      by_cases hkl : k = l
      · obtain rfl : module.tree = d := Option.some.inj (hl.symm.trans (hkl ▸ hd))
        have hlong := hu.length
        have hshort := hle hdu
        change 6 < u.text.length at hlong
        omega
      · have hroom := Tree.length_add_le hd hl hkl
        have hin := Tree.length_le_of_mem (mem_children_of_firstPart? hfirst)
        have hdle := hle hdu
        change target.tree.text.length ≤ t.text.length at hin
        omega
  · have hroom := Tree.length_add_le hc hj hij
    have hcle := hle hcu
    omega

end Lengths

def readPlace (s : Spot) : List ℕ :=
  ((s.childOfKind? .doBlock).or (namePieces s).head?).elim [] Spot.place

def readAt (t : Tree) (x : Spot) : ℕ := t.offsetAt (x.place ++ readPlace x.tree.spot)

end ConfigKeeper.Elixir

namespace ConfigKeeper.Lint.Rule

open Elixir

variable {r : Rule} {s : Source} {t : Tree} {x y : Spot} {call : Spot}

lemma flags_environmentReads {n : Tree.Located} :
    Check.flags .environmentReads n = true ↔ ReadsEnvironment n.tree.spot := isEnvironmentRead_iff

lemma exists_places (h : ReadsEnvironment call) :
    ∃ places, Check.places .environmentReads call = readPlace call :: places := by
  obtain ⟨args, string, hargs, hstring, hkind, p, hp⟩ := h.name
  have hnames : namePieces call = pieces string := by simp [namePieces, hargs, hstring, hkind]
  cases hpieces : pieces string with
  | nil =>
    rw [hpieces] at hp
    cases hp
  | cons q qs =>
    rw [Check.places, readPlace, hnames, hpieces, List.map_cons, List.head?_cons]
    cases call.childOfKind? .doBlock <;> exact ⟨_, rfl⟩

lemma sorted_places (call : Spot) : (Check.places .environmentReads call).Pairwise (· ≤ ·) := by
  have hnames : (namePieces call).Pairwise fun p q => p.place < q.place := by
    rw [namePieces]
    split
    · split
      · exact sorted_pieces _
      · exact .nil
    · exact .nil
  rw [Check.places, List.pairwise_map]
  cases call.childOfKind? .doBlock with
  | none => exact hnames.imp le_of_lt
  | some block => exact List.pairwise_of_forall fun _ _ => le_rfl

lemma telling_environmentReads (t : Tree) : Telling .environmentReads t where
  shown x hx hflags := by
    have hread : ReadsEnvironment x.tree.spot := flags_environmentReads.1 hflags
    obtain ⟨places, hplaces⟩ := exists_places hread
    simp [hplaces]
  sorted x _ _ := sorted_places x.tree.spot
  distinct x y hx hy hxflags hyflags := by
    refine Tree.eq_of_range_eq (P := fun x => ReadsEnvironment x.tree.spot) (fun x hread => ?_)
      (fun x y hx hy hxread hyread hlt habove => ?_) hx hy (flags_environmentReads.1 hxflags)
      (flags_environmentReads.1 hyflags)
    · exact Nat.zero_lt_of_lt hread.length
    · obtain ⟨below, hbelow⟩ := habove
      rw [Tree.Has, ← hbelow, Tree.at?_append, hx, Option.bind_some] at hy
      cases below with
      | nil =>
        rw [List.append_nil] at hbelow
        exact absurd hlt (hbelow ▸ lt_irrefl _)
      | cons i p => exact hxread.length_lt hyread hy

lemma firstShown_environmentReads (hx : t.Has x) (h : ReadsEnvironment x.tree.spot) :
    firstShown .environmentReads (t.located x) = readAt t x := by
  obtain ⟨places, hplaces⟩ := exists_places h
  rw [readAt, Tree.offsetAt_append hx]
  change t.offsetAt x.place + (Check.places .environmentReads x.tree.spot).head?.elim 0 x.tree.offsetAt = _
  rw [hplaces]
  rfl

/-- A rule about reads of the environment reports exactly these, each once and as a whole, in the order in which
the text shows them. That is their order in the source, but for those within another read that are shown before
it. -/
theorem evaluate_environmentReads (hcheck : r.check = .environmentReads) (s : Source) :
    ∃ found, Reports r s (fun x => ReadsEnvironment x.tree.spot) found ∧
      found.Pairwise (Earlier (readAt s.tree)) ∧
      ∀ x ∈ found, ∀ y ∈ found, x.place < y.place →
        (Earlier (readAt s.tree) y x ↔ x.place <+: y.place ∧ readAt s.tree y < readAt s.tree x) := by
  have htelling : Telling r.check s.tree := hcheck ▸ telling_environmentReads s.tree
  obtain ⟨found, hreports, hsorted⟩ := htelling.reports fun x _ => hcheck ▸ flags_environmentReads
  refine ⟨found, hreports, hsorted.imp_of_mem fun {x y} hx hy hxy => ?_, fun x hx y hy hlt => ?_⟩
  · obtain ⟨hx, hxread⟩ := (hreports.mem_iff x).1 hx
    obtain ⟨hy, hyread⟩ := (hreports.mem_iff y).1 hy
    rwa [Earlier, hcheck, firstShown_environmentReads hx hxread, firstShown_environmentReads hy hyread] at hxy
  · have hx := ((hreports.mem_iff x).1 hx).1
    have hy := ((hreports.mem_iff y).1 hy).1
    -- each read is shown inside its node
    refine earlier_iff_of_lt hx hlt ?_ ?_
    · rw [readAt, Tree.offsetAt_append hx]
      exact Nat.add_le_add_left (Tree.offsetAt_le _ _) _
    · rw [readAt, Tree.offsetAt_append hy]
      exact Nat.le_add_right _ _

def nested : String := "config :app, key: System.get_env(\"#\x7bSystem.get_env(\"B\")\x7dc\")\n"

theorem evaluate_environmentReads_nested : noEnvInDevConfig.check = .environmentReads ∧
    ∃ found, Reports noEnvInDevConfig (Source.parse nested) (fun x => ReadsEnvironment x.tree.spot) found ∧
      found.length = 2 := by
  obtain ⟨found, hreports, -⟩ := evaluate_environmentReads (r := noEnvInDevConfig) rfl (Source.parse nested)
  have hlength : (noEnvInDevConfig.evaluate (Source.parse nested) "config/dev.exs").length = 2 := by decide +kernel
  rw [hreports.evaluate, List.length_map] at hlength
  exact ⟨rfl, found, hreports, hlength⟩

theorem inner_before_outer : (Source.parse nested).hasError = false ∧
    (noEnvInDevConfig.evaluate (Source.parse nested) "config/dev.exs").map Diagnostic.charSpan = [(36, 55), (18, 59)] ∧
    ¬ ((noEnvInDevConfig.evaluate (Source.parse nested) "config/dev.exs").map Diagnostic.charSpan).Pairwise
      fun a b => a.1 ≤ b.1 := by
  decide +kernel

end ConfigKeeper.Lint.Rule
