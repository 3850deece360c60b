import ConfigKeeper.Proofs.Elixir.Grammar
import ConfigKeeper.Proofs.Elixir.Literals
import ConfigKeeper.Proofs.Lint.Reported

/-!
Imports without a check of the imported file. A statement at the top level is reported once if it imports a
string with a plain piece and no check, or behind a check of a string that has a piece which differs from one
of the imported string.
-/

namespace ConfigKeeper.Elixir

variable {s target p : Spot} {t : Tree} {i : ℕ}

/-- An import that is not guarded: a bare one, or one whose check has another piece. -/
inductive Unguarded (s : Spot) : Prop
  | bare {imported p : Spot} (imports : ImportsString s none imported) (piece : p ∈ pieces imported) : Unguarded s
  | mismatched {checked imported c p : Spot} (imports : ImportsString s (some checked) imported)
      (check : c ∈ pieces checked) (piece : p ∈ pieces imported) (differ : c.text ≠ p.text) : Unguarded s

lemma length_pos_of_text {name : String} (h : s.text = name) (hname : 0 < name.length) : 0 < s.tree.text.length := by
  rwa [Tree.length_text, h]

lemma ImportsString.length_pos {checked : Option Spot} {imported : Spot} (h : ImportsString s checked imported) :
    0 < s.tree.text.length := by
  cases h with
  | bare imports =>
    obtain ⟨target, hcall, -, hname⟩ := imports
    have hnames (name : String) (h : name ∈ importNames) : 0 < name.length := by
      revert name
      decide
    exact (length_pos_of_text rfl (hnames _ hname)).trans_le
      (Tree.length_le_of_mem (mem_children_of_firstPart? hcall.target))
  | conditional _ first _ isWord =>
    exact (length_pos_of_text isWord (by decide)).trans_le (Tree.length_le_of_mem (mem_children_of_firstPart? first))
  | joined _ left _ _ _ checks =>
    obtain ⟨target, hcall, hname⟩ := checks
    exact (length_pos_of_text hname (by decide)).trans_le ((Tree.length_le_of_mem
      (mem_children_of_firstPart? hcall.target)).trans (Tree.length_le_of_mem (mem_children_of_firstPart? left)))

lemma Unguarded.length_pos (h : Unguarded s) : 0 < s.tree.text.length := by
  cases h with
  | bare imports => exact imports.length_pos
  | mismatched imports => exact imports.length_pos

namespace Tree

lemma parentAt_eq_source_iff (h : t.Rooted) (hs : t.Has s) :
    t.parentAt s.place = some .source ↔ ∃ i, s.place = [i] := by
  rcases List.eq_nil_or_concat' s.place with hplace | ⟨p, i, hplace⟩
  · simp [hplace, parentAt]
  · have hparent := hs
    rw [Has, hplace, at?_append] at hparent
    obtain ⟨u, hu, -⟩ := Option.bind_eq_some_iff.1 hparent
    rw [hplace, parentAt_concat, hu, Option.map_some, Option.some.injEq]
    constructor
    · intro hk
      obtain rfl : p = [] := h.2 ⟨p, u⟩ hu hk
      exact ⟨i, rfl⟩
    · rintro ⟨j, hj⟩
      obtain rfl : p = [] := by simpa using congrArg List.dropLast hj
      obtain rfl := Option.some.inj hu
      exact h.1

end Tree

end ConfigKeeper.Elixir

namespace ConfigKeeper.Lint.Rule

open Elixir

variable {r : Rule} {s : Source} {t : Tree} {x y next : Spot} {shape : ImportShape}

section Shapes

lemma isUnguarded_guarded (hshape : ∀ call, shape ≠ .bare call) : isUnguarded shape = isMismatchedGuard shape := by
  cases shape with
  | bare call => exact absurd rfl (hshape call)
  | conditional word check call => rfl
  | joined word check call => rfl

lemma mem_unguardedPieces_guarded (hshape : ∀ call, shape ≠ .bare call) :
    unguardedPieces shape = (shape.piecePairs.filter fun (c, p) => c.text != p.text).map Prod.snd := by
  cases shape with
  | bare call => exact absurd rfl (hshape call)
  | conditional word check call => rfl
  | joined word check call => rfl

lemma isUnguarded_iff {checked : Option Spot} {imported : Spot} (himports : ImportsString next checked imported)
    (h : shape.Keeps checked imported) : isUnguarded shape = true ↔ Unguarded next := by
  cases checked with
  | none =>
    obtain ⟨call, rfl, hpieces⟩ := h
    rw [isUnguarded, Bool.not_eq_true', List.isEmpty_eq_false_iff_exists_mem, hpieces]
    constructor
    · rintro ⟨p, hp⟩
      exact .bare himports hp
    · intro hun
      cases hun with
      | bare himports' hp =>
        obtain ⟨-, rfl⟩ := himports.unique himports'
        exact ⟨_, hp⟩
      | mismatched himports' => exact absurd (himports.unique himports').1 (by simp)
  | some checked =>
    obtain ⟨hshape, hguard, hpairs⟩ := h
    rw [isUnguarded_guarded hshape, isMismatchedGuard, hguard, hpairs, Bool.true_and, List.any_eq_true]
    constructor
    · rintro ⟨⟨c, p⟩, hpair, hdiffer⟩
      obtain ⟨hc, hp⟩ := mem_pairs.1 hpair
      exact .mismatched himports hc hp (by simpa using hdiffer)
    · intro hun
      cases hun with
      | bare himports' => exact absurd (himports.unique himports').1 (by simp)
      | mismatched himports' hc hp hdiffer =>
        obtain ⟨hchecked, rfl⟩ := himports.unique himports'
        obtain rfl := Option.some.inj hchecked
        exact ⟨(_, _), mem_pairs.2 ⟨hc, hp⟩, by simpa using hdiffer⟩

lemma isGuard_of_isUnguarded (h : isUnguarded shape = true) (hshape : ∀ call, shape ≠ .bare call) :
    shape.isGuard = true := by
  rw [isUnguarded_guarded hshape, isMismatchedGuard, Bool.and_eq_true] at h
  exact h.1

lemma unguarded_iff_shape : Unguarded next ↔
    ∃ shape, importShape? next = some shape ∧ shape.isImport = true ∧ isUnguarded shape = true := by
  constructor
  · intro h
    have hstrings : ∃ checked imported, ImportsString next checked imported := by
      cases h with
      | bare imports => exact ⟨_, _, imports⟩
      | mismatched imports => exact ⟨_, _, imports⟩
    obtain ⟨checked, imported, himports⟩ := hstrings
    obtain ⟨shape, hshape, himport, hkeeps⟩ := himports.exists_shape
    exact ⟨shape, hshape, himport, (isUnguarded_iff himports hkeeps).2 h⟩
  · rintro ⟨shape, hshape, himport, hunguarded⟩
    obtain ⟨checked, imported, himports, hkeeps⟩ :=
      exists_importsString hshape himport (isGuard_of_isUnguarded hunguarded)
    exact (isUnguarded_iff himports hkeeps).1 hunguarded

lemma isUnguardedImport_iff : isUnguardedImport t = true ↔ Unguarded t.spot := by
  rw [unguarded_iff_shape, isUnguardedImport]
  cases importShape? t.spot <;> simp

lemma unguardedPieces_ne_nil (h : isUnguarded shape = true) : unguardedPieces shape ≠ [] := by
  by_cases hshape : ∀ call, shape ≠ .bare call
  · rw [isUnguarded_guarded hshape, isMismatchedGuard, Bool.and_eq_true] at h
    obtain ⟨⟨c, p⟩, hpair, hdiffer⟩ := List.any_eq_true.1 h.2
    rw [mem_unguardedPieces_guarded hshape]
    exact List.ne_nil_of_mem (List.mem_map_of_mem (List.mem_filter.2 ⟨hpair, hdiffer⟩))
  · push Not at hshape
    obtain ⟨call, rfl⟩ := hshape
    simpa [isUnguarded, unguardedPieces] using h

lemma sorted_unguardedPieces (h : importShape? next = some shape) :
    (unguardedPieces shape).Pairwise fun p q => p.place ≤ q.place := by
  by_cases hshape : ∀ call, shape ≠ .bare call
  · rw [mem_unguardedPieces_guarded hshape, List.pairwise_map]
    refine ((sorted_piecePairs h).filter _).imp fun hab => ?_
    rcases hab with hlt | ⟨heq, -⟩
    · exact hlt.le
    · exact heq.le
  · push Not at hshape
    obtain ⟨call, rfl⟩ := hshape
    have hcall := (namedStringCall?_eq_some_iff.1 (namedStringCall?_of_bare h)).1
    exact (sorted_of_stringCall? hcall).imp le_of_lt

end Shapes

section Reported

def TopLevel (x : Spot) : Prop := ∃ i, x.place = [i]

lemma flags_unguardedImports (h : t.Rooted) (hx : t.Has x) :
    Check.flags .unguardedImports (t.located x) = true ↔ TopLevel x ∧ Unguarded x.tree.spot := by
  rw [Check.flags, Bool.and_eq_true, decide_eq_true_eq, TopLevel, ← Tree.parentAt_eq_source_iff h hx,
    ← isUnguardedImport_iff]
  rfl

lemma not_isPrefix_of_topLevel (hx : TopLevel x) (hy : TopLevel y) (hlt : x.place < y.place) :
    ¬ x.place <+: y.place := by
  obtain ⟨i, hi⟩ := hx
  obtain ⟨j, hj⟩ := hy
  rw [hi, hj] at hlt ⊢
  intro habove
  obtain rfl : i = j := by simpa using habove
  exact lt_irrefl _ hlt

lemma telling_unguardedImports (h : t.Rooted) : Telling .unguardedImports t where
  shown x hx hflags := by
    obtain ⟨shape, hshape, -, hunguarded⟩ := unguarded_iff_shape.1 ((flags_unguardedImports h hx).1 hflags).2
    simpa [Check.places, hshape] using unguardedPieces_ne_nil hunguarded
  sorted x hx hflags := by
    obtain ⟨shape, hshape, -⟩ := unguarded_iff_shape.1 ((flags_unguardedImports h hx).1 hflags).2
    simpa [Check.places, hshape, List.pairwise_map] using sorted_unguardedPieces hshape
  distinct x y hx hy hxflags hyflags := by
    refine Tree.eq_of_range_eq (P := fun x => TopLevel x ∧ Unguarded x.tree.spot) (fun x hun => hun.2.length_pos)
      (fun x y hx hy hxun hyun hlt habove => ?_) hx hy ((flags_unguardedImports h hx).1 hxflags)
      ((flags_unguardedImports h hy).1 hyflags)
    exact absurd habove (not_isPrefix_of_topLevel hxun.1 hyun.1 hlt)

lemma exists_reports_unguarded (hcheck : r.check = .unguardedImports) (hroot : s.tree.Rooted) :
    ∃ found, Reports r s (fun x => TopLevel x ∧ Unguarded x.tree.spot) found ∧
      found.Pairwise fun x y => (s.tree.located x).stop ≤ (s.tree.located y).offset := by
  have htelling : Telling r.check s.tree := hcheck ▸ telling_unguardedImports hroot
  obtain ⟨found, hreports, hsorted⟩ := htelling.reports fun x hx => hcheck ▸ flags_unguardedImports hroot hx
  refine ⟨found, hreports, hsorted.imp_of_mem fun {x y} hx hy hxy => ?_⟩
  obtain ⟨hx, hxun⟩ := (hreports.mem_iff x).1 hx
  obtain ⟨hy, hyun⟩ := (hreports.mem_iff y).1 hy
  rcases lt_trichotomy x.place y.place with hlt | heq | hlt
  · exact Tree.stop_le_offset hx hlt (not_isPrefix_of_topLevel hxun.1 hyun.1 hlt)
  · obtain rfl := hx.eq hy heq
    exact absurd hxy Earlier.irrefl
  · have habove := ((earlier_iff_of_lt hy hlt (firstShown_le_stop _ _) (offset_le_firstShown _ _)).1 hxy).1
    exact absurd habove (not_isPrefix_of_topLevel hyun.1 hxun.1 hlt)

/-- The diagnostics are those of the nodes at the top level that are imports without a guard, each once and in the
order of the source. The parser gives no other trees than those with one root. -/
theorem evaluate_unguardedImports (hcheck : r.check = .unguardedImports) :
    (∀ text, (Source.parse text).tree.Rooted) ∧ ∀ s : Source, s.tree.Rooted →
      ∃ found, Reports r s (fun x => TopLevel x ∧ Unguarded x.tree.spot) found ∧
        found.Pairwise fun x y => (s.tree.located x).stop ≤ (s.tree.located y).offset :=
  ⟨rooted_parse, fun _ hroot => exists_reports_unguarded hcheck hroot⟩

def imports : String :=
  "import_config \"a.exs\"\nif File.exists?(\"b.exs\") do\n  import_config \"b.exs\"\nend\n" ++
  "File.exists?(\"c.exs\") && import_config \"d.exs\"\n"

theorem evaluate_unguardedImports_imports : importsAreGuarded.check = .unguardedImports ∧
    (Source.parse imports).tree.Rooted ∧ ∃ found, Reports importsAreGuarded (Source.parse imports)
      (fun x => TopLevel x ∧ Unguarded x.tree.spot) found ∧ found.length = 2 := by
  obtain ⟨hparse, hreports⟩ := evaluate_unguardedImports (r := importsAreGuarded) rfl
  obtain ⟨found, hreports, -⟩ := hreports (Source.parse imports) (hparse imports)
  have hlength : (importsAreGuarded.evaluate (Source.parse imports) "config/dev.exs").length = 2 := by decide +kernel
  rw [hreports.evaluate, List.length_map] at hlength
  exact ⟨rfl, hparse imports, found, hreports, hlength⟩

end Reported

section Guarded

variable {checked imported : Spot} {file : String}

lemma exists_mem_pieces {c : Spot} (h : checked.tree = imported.tree) (hc : c ∈ pieces checked) :
    ∃ q ∈ pieces imported, q.text = c.text := by
  obtain ⟨hchild, hplain⟩ := List.mem_filter.1 hc
  obtain ⟨i, hi, -⟩ := mem_listed.1 hchild
  rw [h] at hi
  exact ⟨⟨imported.place ++ [0 + i], c.tree⟩, List.mem_filter.2 ⟨mem_listed.2 ⟨i, hi, rfl⟩, hplain⟩, rfl⟩

lemma unguarded_iff_of_same (himports : ImportsString x (some checked) imported)
    (hsame : checked.tree = imported.tree) :
    Unguarded x ↔ ∃ p ∈ pieces imported, ∃ q ∈ pieces imported, p.text ≠ q.text := by
  constructor
  · intro h
    cases h with
    | bare himports' => exact absurd (himports.unique himports').1 (by simp)
    | mismatched himports' hc hp hdiffer =>
      obtain ⟨hchecked, rfl⟩ := himports.unique himports'
      obtain rfl := Option.some.inj hchecked
      obtain ⟨q, hq, hqc⟩ := exists_mem_pieces hsame hc
      exact ⟨q, hq, _, hp, hqc ▸ hdiffer⟩
  · rintro ⟨p, hp, q, hq, hdiffer⟩
    obtain ⟨c, hc, hcp⟩ := exists_mem_pieces hsame.symm hp
    exact .mismatched himports hc hq (hcp ▸ hdiffer)

lemma exists_diagnostic_iff (hcheck : r.check = .unguardedImports) (hroot : s.tree.Rooted) (hx : s.tree.Has x)
    (htop : TopLevel x) (hpos : 0 < x.tree.text.length) :
    (∃ d ∈ r.evaluate s file, (s.tree.located x).offset ≤ d.charSpan.1 ∧ d.charSpan.1 < (s.tree.located x).stop) ↔
      Unguarded x.tree.spot := by
  obtain ⟨found, hreports, -⟩ := exists_reports_unguarded hcheck hroot
  rw [hreports.evaluate]
  constructor
  · rintro ⟨d, hd, hoffset, hstop⟩
    obtain ⟨y, hy, rfl⟩ := List.mem_map.1 hd
    obtain ⟨hy, hytop, hyun⟩ := (hreports.mem_iff y).1 hy
    rw [charSpan_eq r file hy] at hoffset hstop
    -- a statement before or after `x` shares no character with it
    change (s.tree.located x).offset ≤ (s.tree.located y).offset at hoffset
    change (s.tree.located y).offset < (s.tree.located x).stop at hstop
    rcases lt_trichotomy x.place y.place with hlt | heq | hlt
    · have hle := Tree.stop_le_offset hx hlt (not_isPrefix_of_topLevel htop hytop hlt)
      exact absurd hstop hle.not_gt
    · obtain rfl := hx.eq hy heq
      exact hyun
    · have hle : (s.tree.located y).offset + y.tree.text.length ≤ (s.tree.located x).offset :=
        Tree.stop_le_offset hy hlt (not_isPrefix_of_topLevel hytop htop hlt)
      have hypos := hyun.length_pos
      change 0 < y.tree.text.length at hypos
      omega
  · intro hun
    refine ⟨_, List.mem_map.2 ⟨x, (hreports.mem_iff x).2 ⟨hx, htop, hun⟩, rfl⟩, ?_⟩
    rw [charSpan_eq r file hx]
    exact ⟨le_rfl, Nat.lt_add_of_pos_right hpos⟩

/-- An import at the top level behind a check of the same string is reported just if two plain pieces of that
string differ. -/
theorem evaluate_guarded (hcheck : r.check = .unguardedImports) (hroot : s.tree.Rooted) (hx : s.tree.Has x)
    (htop : TopLevel x) (himports : ImportsString x.tree.spot (some checked) imported)
    (hsame : checked.tree = imported.tree) (file : String) :
    (∃ d ∈ r.evaluate s file, (s.tree.located x).offset ≤ d.charSpan.1 ∧ d.charSpan.1 < (s.tree.located x).stop) ↔
      ∃ p ∈ pieces imported, ∃ q ∈ pieces imported, p.text ≠ q.text := by
  rw [exists_diagnostic_iff hcheck hroot hx htop himports.length_pos]
  exact unguarded_iff_of_same himports hsame

def literal : Tree := .node .string [.leaf .punctuation ['"'], .leaf .content ['a'], .leaf .punctuation ['"']]

def checkAndImport : Source where
  text := "File.exists?(\"a\") && import_config \"a\""
  tree := .node .source [.node .binary
    [.node .call
      [.node .dot [.leaf .moduleName "File".toList, .leaf .operator ['.'], .leaf .identifier "exists?".toList],
        .node .arguments [.leaf .punctuation ['('], literal, .leaf .punctuation [')']]],
      .leaf .blank [' '], .leaf .operator ['&', '&'], .leaf .blank [' '],
      .node .call [.leaf .identifier "import_config".toList, .leaf .blank [' '], .node .arguments [literal]]]]
  spells := by decide

theorem evaluate_guarded_checkAndImport : checkAndImport.tree.Rooted ∧ ∃ x checked imported,
    checkAndImport.tree.Has x ∧ TopLevel x ∧ ImportsString x.tree.spot (some checked) imported ∧
      checked.tree = imported.tree ∧
      ¬ ∃ d ∈ importsAreGuarded.evaluate checkAndImport "config/dev.exs",
        (checkAndImport.tree.located x).offset ≤ d.charSpan.1 ∧
        d.charSpan.1 < (checkAndImport.tree.located x).stop := by
  have hroot : checkAndImport.tree.Rooted := by
    have hall : ∀ x ∈ Tree.spotsAt [] checkAndImport.tree, x.kind = .source → x.place = [] := by decide
    exact ⟨rfl, fun x hx hk => hall x ((Tree.mem_spotsAt [] _).2 ⟨x.place, rfl, hx⟩) hk⟩
  have himports :
      ImportsString (checkAndImport.tree.children[0]).spot (some ⟨[0, 1, 1], literal⟩) ⟨[4, 2, 0], literal⟩ :=
    .joined rfl rfl rfl (by decide) rfl
      ⟨_, ⟨rfl, rfl, ⟨_, rfl, rfl⟩, rfl⟩, by decide⟩ ⟨_, ⟨rfl, rfl, ⟨_, rfl, rfl⟩, rfl⟩, rfl, by decide⟩
  have hx : checkAndImport.tree.Has ⟨[0], checkAndImport.tree.children[0]⟩ := rfl
  refine ⟨hroot, _, _, _, hx, ⟨0, rfl⟩, himports, rfl, ?_⟩
  rw [evaluate_guarded rfl hroot hx ⟨0, rfl⟩ himports rfl]
  decide

def guardedBy (literal : String) : String :=
  "if File.exists?(" ++ literal ++ ") do\n  import_config " ++ literal ++ "\nend\n"

theorem reported_of_escape : ¬ ∀ literal, (Source.parse (guardedBy literal)).hasError = false →
    importsAreGuarded.evaluate (Source.parse (guardedBy literal)) "config/dev.exs" = [] := by
  intro h
  have hclean : (Source.parse (guardedBy "\"a\\tb\"")).hasError = false := by decide +kernel
  have hsome : (importsAreGuarded.evaluate (Source.parse (guardedBy "\"a\\tb\"")) "config/dev.exs").length = 1 := by
    decide +kernel
  rw [h _ hclean] at hsome
  cases hsome

end Guarded

end ConfigKeeper.Lint.Rule
