import ConfigKeeper.Proofs.Elixir.Imports
import ConfigKeeper.Proofs.Text.Split

namespace ConfigKeeper.Annotation

open Text Elixir

variable {ns comment : String} {t : Tree} {s c p mark next : Spot} {shape : ImportShape} {x y : Candidate}
  {call : StringCall} {r : List Char}

section Heads

/-- A comment that has the key of a namespace after its mark and white space. -/
def Heads (ns comment : String) : Prop :=
  ∃ w rest : List Char, (∀ c ∈ w, isBlank c = true) ∧
    comment.toList = '#' :: (w ++ ((keyOf ns).toList ++ ':' :: rest))

lemma longestFit_isSome_iff {word : List Char} {n : ℕ} :
    (commentHead?.longestFit word n r).isSome = true ↔ ∃ k ≤ n, word <+: r.drop k := by
  induction n with
  | zero =>
    rw [commentHead?.longestFit]
    by_cases h : word <+: r
    · simp [startsWith_iff.2 h, h]
    · simp [startsWith_iff, h]
  | succ n ih =>
    rw [commentHead?.longestFit]
    by_cases h : word <+: r.drop (n + 1)
    · rw [if_pos (startsWith_iff.2 h)]
      exact iff_of_true rfl ⟨n + 1, le_rfl, h⟩
    · rw [if_neg (by rwa [startsWith_iff]), ih]
      refine exists_congr fun k => ⟨fun hk => ⟨by omega, hk.2⟩, fun hk => ⟨?_, hk.2⟩⟩
      rcases Nat.lt_or_eq_of_le hk.1 with hlt | rfl
      · omega
      · exact absurd hk.2 h

lemma exists_fit_iff {word : List Char} : (∃ k ≤ (r.takeWhile isBlank).length, word <+: r.drop k) ↔
    ∃ w rest, (∀ c ∈ w, isBlank c = true) ∧ r = w ++ (word ++ rest) := by
  constructor
  · rintro ⟨k, hk, rest, hrest⟩
    refine ⟨r.take k, rest, fun c hc => ?_, by rw [hrest, List.take_append_drop]⟩
    have hfront : r.take k <+: r.takeWhile isBlank :=
      List.prefix_of_prefix_length_le (List.take_prefix k r) (List.takeWhile_prefix _)
        ((List.length_take_le k r).trans hk)
    exact List.all_eq_true.1 (List.all_takeWhile (l := r)) c (hfront.subset hc)
  · rintro ⟨w, rest, hw, rfl⟩
    refine ⟨w.length, ?_, rest, by rw [List.drop_left]⟩
    rw [List.takeWhile_append_of_pos hw, List.length_append]
    exact Nat.le_add_right _ _

lemma commentHead?_isSome_iff : (commentHead? ns comment).isSome = true ↔ Heads ns comment := by
  rw [commentHead?, Heads]
  split
  · next r hr =>
    have hword : (keyOf ns ++ ":").toList = (keyOf ns).toList ++ [':'] := String.toList_append
    have hfit : (∃ k ≤ (r.takeWhile isBlank).length, (keyOf ns ++ ":").toList <+: r.drop k) ↔
        ∃ w rest, (∀ c ∈ w, isBlank c = true) ∧ '#' :: r = '#' :: (w ++ ((keyOf ns).toList ++ ':' :: rest)) := by
      rw [exists_fit_iff, hword]
      simp
    rw [hr, ← hfit, ← longestFit_isSome_iff]
    simp only
    cases commentHead?.longestFit (keyOf ns ++ ":").toList (r.takeWhile isBlank).length r <;> rfl
  · next hno =>
    refine iff_of_false (by simp) ?_
    rintro ⟨w, rest, -, h⟩
    exact hno _ h

end Heads

section Importing

lemma mem_importedPieces_bare : y ∈ importedPieces mark (.bare call) ↔
    call.target.text ∈ importNames ∧ y.comment = mark ∧ y.check = none ∧ y.piece ∈ call.pieces := by
  obtain ⟨comment, check, piece⟩ := y
  by_cases himport : call.target.text ∈ importNames
  · simp only [importedPieces, ImportShape.isImport, ImportShape.call, List.contains_iff_mem, himport, if_true,
      List.mem_map, Candidate.mk.injEq, true_and]
    constructor
    · rintro ⟨_, hp, rfl, rfl, rfl⟩
      exact ⟨rfl, rfl, hp⟩
    · rintro ⟨rfl, rfl, hp⟩
      exact ⟨piece, hp, rfl, rfl, rfl⟩
  · simp [importedPieces, ImportShape.isImport, ImportShape.call, himport]

lemma importedPieces_guarded (mark : Spot) (hshape : ∀ call, shape ≠ .bare call) : importedPieces mark shape =
    if shape.isImport then
      if shape.isGuard then (shape.piecePairs.filter fun (c, p) => c.text = p.text).map fun (c, p) => ⟨mark, some c, p⟩
      else []
    else [] := by
  cases shape with
  | bare call => exact absurd rfl (hshape call)
  | conditional word check call => rfl
  | joined word check call => rfl

lemma mem_importedPieces_guarded (hshape : ∀ call, shape ≠ .bare call) : y ∈ importedPieces mark shape ↔
    shape.call.target.text ∈ importNames ∧ shape.isGuard = true ∧ y.comment = mark ∧
      ∃ c, y.check = some c ∧ (c, y.piece) ∈ shape.piecePairs ∧ c.text = y.piece.text := by
  obtain ⟨comment, check, piece⟩ := y
  simp only [importedPieces_guarded mark hshape, ImportShape.isImport, List.contains_iff_mem]
  by_cases himport : shape.call.target.text ∈ importNames
  · by_cases hguard : shape.isGuard = true
    · simp only [himport, hguard, if_true, List.mem_map, List.mem_filter, decide_eq_true_eq, Candidate.mk.injEq,
        true_and, Prod.exists]
      constructor
      · rintro ⟨c, _, ⟨hpair, hequal⟩, rfl, rfl, rfl⟩
        exact ⟨rfl, c, rfl, hpair, hequal⟩
      · rintro ⟨rfl, c, rfl, hpair, hequal⟩
        exact ⟨c, piece, ⟨hpair, hequal⟩, rfl, rfl, rfl⟩
    · simp [himport, hguard]
  · simp [himport]

lemma imports_of_mem_importedPieces (hshape : importShape? next = some shape) (hy : y ∈ importedPieces mark shape) :
    y.comment = mark ∧ Imports next y.check y.piece := by
  rcases importShape?_eq_some_iff.1 hshape with ⟨call, hcall, rfl⟩ | hconditional | hjoined
  · obtain ⟨hname, hmark, hcheck, hp⟩ := mem_importedPieces_bare.1 hy
    rw [hcheck]
    exact ⟨hmark, .bare (importsPiece_iff.2 ⟨call, hcall, hname, hp⟩)⟩
  · obtain ⟨word, args, block, check, call, hk, hword, hplain, ⟨hargs, hcheck⟩, ⟨hblock, hcall⟩, rfl⟩ :=
      conditional?_eq_some_iff.1 hconditional
    obtain ⟨hname, hguard, hmark, c, hc, hpair, hequal⟩ := (mem_importedPieces_guarded (by simp)).1 hy
    obtain ⟨hcheckPiece, hp⟩ := mem_pairs.1 hpair
    obtain ⟨hexists, hif⟩ := isGuard_conditional.1 hguard
    obtain ⟨checkAt, hcheckAt, hchecks⟩ := exists_checksPiece_iff.2 ⟨check, hcheck, hexists, hcheckPiece⟩
    obtain ⟨callAt, hcallAt, himports⟩ := exists_importsPiece_iff.2 ⟨call, hcall, hname, hp⟩
    rw [hc]
    exact ⟨hmark, .conditional hk hword hplain hif ⟨hargs, hcheckAt⟩ ⟨hblock, hcallAt⟩ hchecks himports hequal⟩
  · obtain ⟨check, call, hk, hcheck, hcall, rfl⟩ := joined?_eq_some_iff.1 hjoined
    obtain ⟨hname, hguard, hmark, c, hc, hpair, hequal⟩ := (mem_importedPieces_guarded (by simp)).1 hy
    obtain ⟨hcheckPiece, hp⟩ := mem_pairs.1 hpair
    obtain ⟨hexists, hword⟩ := isGuard_joined.1 hguard
    obtain ⟨operator, hoperator, hand⟩ := operator_iff.1 hword
    obtain ⟨checkAt, hcheckAt, hchecks⟩ := exists_checksPiece_iff.2 ⟨check, hcheck, hexists, hcheckPiece⟩
    obtain ⟨callAt, hcallAt, himports⟩ := exists_importsPiece_iff.2 ⟨call, hcall, hname, hp⟩
    rw [hc]
    exact ⟨hmark, .joined hk hcheckAt hoperator hand hcallAt hchecks himports hequal⟩

lemma exists_importShape?_of_imports (h : Imports next y.check y.piece) :
    ∃ shape, importShape? next = some shape ∧ y ∈ importedPieces y.comment shape := by
  obtain ⟨comment, check, piece⟩ := y
  cases h with
  | bare imports =>
    obtain ⟨call, hcall, hname, hp⟩ := importsPiece_iff.1 imports
    exact ⟨_, importShape?_eq_some_iff.2 (.inl ⟨call, hcall, rfl⟩), mem_importedPieces_bare.2 ⟨hname, rfl, rfl, hp⟩⟩
  | conditional hk hword hplain hif condition body checks imports hequal =>
    obtain ⟨check, hcheck, hexists, hc⟩ := exists_checksPiece_iff.1 ⟨_, condition.2, checks⟩
    obtain ⟨call, hcall, hname, hp⟩ := exists_importsPiece_iff.1 ⟨_, body.2, imports⟩
    have hconditional := conditional?_eq_some_iff.2
      ⟨_, _, _, check, call, hk, hword, hplain, ⟨condition.1, hcheck⟩, ⟨body.1, hcall⟩, rfl⟩
    exact ⟨_, importShape?_eq_some_iff.2 (.inr (.inl hconditional)), (mem_importedPieces_guarded (by simp)).2
      ⟨hname, isGuard_conditional.2 ⟨hexists, hif⟩, rfl, _, rfl, mem_pairs.2 ⟨hc, hp⟩, hequal⟩⟩
  | joined hk left between isAnd right checks imports hequal =>
    obtain ⟨check, hcheck, hexists, hc⟩ := exists_checksPiece_iff.1 ⟨_, left, checks⟩
    obtain ⟨call, hcall, hname, hp⟩ := exists_importsPiece_iff.1 ⟨_, right, imports⟩
    have hand := operator_iff.2 ⟨_, between, isAnd⟩
    have hjoined := joined?_eq_some_iff.2 ⟨check, call, hk, hcheck, hcall, rfl⟩
    exact ⟨_, importShape?_eq_some_iff.2 (.inr (.inr hjoined)), (mem_importedPieces_guarded (by simp)).2
      ⟨hname, isGuard_joined.2 ⟨hexists, hand⟩, rfl, _, rfl, mem_pairs.2 ⟨hc, hp⟩, hequal⟩⟩

lemma exists_importShape?_iff : (∃ shape, importShape? next = some shape ∧ y ∈ importedPieces mark shape) ↔
    y.comment = mark ∧ Imports next y.check y.piece := by
  constructor
  · rintro ⟨shape, hshape, hy⟩
    exact imports_of_mem_importedPieces hshape hy
  · rintro ⟨rfl, h⟩
    exact exists_importShape?_of_imports h

lemma mem_annotated : y ∈ annotated ns mark next ↔
    y.comment = mark ∧ (commentHead? ns mark.text).isSome = true ∧ Imports next y.check y.piece := by
  rw [annotated, and_left_comm, ← exists_importShape?_iff]
  by_cases hhead : (commentHead? ns mark.text).isSome = true
  · cases importShape? next <;> simp [hhead]
  · simp [hhead]

end Importing

section Order

def Candidate.ChecksBefore (x y : Candidate) : Prop :=
  ∃ c d, x.check = some c ∧ y.check = some d ∧ c.place < d.place

/-- One order after another. Where both leave two candidates together, the pieces of the check decide. -/
def Candidate.By (first second : Candidate → List ℕ) (x y : Candidate) : Prop :=
  first x < first y ∨ first x = first y ∧ (second x < second y ∨ second x = second y ∧ x.ChecksBefore y)

lemma Candidate.By.swap {first second : Candidate → List ℕ} (h : x.By first second y) (heq : second x = second y) :
    x.By second first y := by
  rcases h with hlt | ⟨hfirst, hlt | ⟨-, hcheck⟩⟩
  · exact .inr ⟨heq, .inl hlt⟩
  · exact .inl hlt
  · exact .inr ⟨heq, .inr ⟨hfirst, hcheck⟩⟩

lemma sorted_guarded (h : importShape? next = some shape) (hshape : ∀ call, shape ≠ .bare call) :
    (importedPieces mark shape).Pairwise (Candidate.By (·.comment.place) (·.piece.place)) := by
  rw [importedPieces_guarded mark hshape]
  split
  · split
    · refine List.pairwise_map.2 (((sorted_piecePairs h).filter _).imp fun hab => ?_)
      rcases hab with hlt | ⟨heq, hlt⟩
      · exact .inr ⟨rfl, .inl hlt⟩
      · exact .inr ⟨rfl, .inr ⟨heq, _, _, rfl, rfl, hlt⟩⟩
    · exact .nil
  · exact .nil

lemma sorted_importedPieces (h : importShape? next = some shape) :
    (importedPieces mark shape).Pairwise (Candidate.By (·.comment.place) (·.piece.place)) := by
  cases shape with
  | bare call =>
    have hcall := (namedStringCall?_eq_some_iff.1 (namedStringCall?_of_bare h)).1
    rw [importedPieces]
    split
    · exact List.pairwise_map.2 ((sorted_of_stringCall? hcall).imp fun hlt => .inr ⟨rfl, .inl hlt⟩)
    · exact .nil
  | conditional word check call => exact sorted_guarded h (by simp)
  | joined word check call => exact sorted_guarded h (by simp)

lemma sorted_annotated (ns : String) (mark next : Spot) :
    (annotated ns mark next).Pairwise (Candidate.By (·.comment.place) (·.piece.place)) := by
  rw [annotated]
  split
  · cases h : importShape? next with
    | none => exact .nil
    | some shape => exact sorted_importedPieces h
  · exact .nil

lemma sorted_written (ns : String) (t : Tree) :
    (written ns t).Pairwise (Candidate.By (·.comment.place) (·.piece.place)) := by
  refine List.pairwise_flatMap.2 ⟨fun a _ => sorted_annotated ns a.1 a.2, (Tree.sorted_commented t).imp ?_⟩
  intro a b hlt x hx y hy
  rw [← (mem_annotated.1 hx).1, ← (mem_annotated.1 hy).1] at hlt
  exact .inl hlt

lemma sorted_candidates (ns : String) (t : Tree) :
    (candidates ns t).Pairwise (Candidate.By (·.piece.place) (·.comment.place)) := by
  have hpiece {s : Spot} {c : Candidate} (hc : c ∈ (written ns t).filter fun c => c.piece.place = s.place) :
      c.piece.place = s.place := by simpa using (List.mem_filter.1 hc).2
  refine List.pairwise_flatMap.2 ⟨fun s _ => ?_, (Tree.sorted_plainSpots t).imp fun hlt x hx y hy => ?_⟩
  · refine ((sorted_written ns t).filter _).imp_of_mem fun hx hy h => h.swap ?_
    rw [hpiece hx, hpiece hy]
  · rw [← hpiece hx, ← hpiece hy] at hlt
    exact .inl hlt

end Order

section Members

lemma mem_written : y ∈ written ns t ↔ ∃ next, t.Directly (y.comment, next) ∧
    (commentHead? ns y.comment.text).isSome = true ∧ Imports next y.check y.piece := by
  rw [written, List.mem_flatMap]
  constructor
  · rintro ⟨⟨mark, next⟩, hdirectly, hy⟩
    obtain ⟨rfl, hhead, himports⟩ := mem_annotated.1 hy
    exact ⟨next, Tree.mem_commented.1 hdirectly, hhead, himports⟩
  · rintro ⟨next, hdirectly, hhead, himports⟩
    exact ⟨(y.comment, next), Tree.mem_commented.2 hdirectly, mem_annotated.2 ⟨rfl, hhead, himports⟩⟩

lemma mem_candidates : y ∈ candidates ns t ↔
    Heads ns y.comment.text ∧ ∃ next, t.Directly (y.comment, next) ∧ Imports next y.check y.piece := by
  have hwritten : y ∈ candidates ns t ↔ y ∈ written ns t := by
    constructor
    · intro hy
      obtain ⟨s, -, hy⟩ := List.mem_flatMap.1 hy
      exact List.mem_of_mem_filter hy
    · intro hy
      obtain ⟨next, hdirectly, -, himports⟩ := mem_written.1 hy
      have hpiece := Tree.mem_plainSpots.2 (himports.has hdirectly.has_next)
      exact List.mem_flatMap.2 ⟨y.piece, hpiece, List.mem_filter.2 ⟨hy, by simp⟩⟩
  rw [hwritten, mem_written, ← commentHead?_isSome_iff]
  constructor
  · rintro ⟨next, hdirectly, hhead, himports⟩
    exact ⟨hhead, next, hdirectly, himports⟩
  · rintro ⟨hhead, next, hdirectly, himports⟩
    exact ⟨next, hdirectly, hhead, himports⟩

end Members

section Reading

structure Reads (ns : String) (t : Tree) (found : List Candidate) : Prop where
  mem_iff : ∀ x, x ∈ found ↔ Heads ns x.comment.text ∧
    (∃ next, t.Directly (x.comment, next) ∧ Imports next x.check x.piece) ∧ x.decode?.isSome = true
  nodup : found.Nodup
  read : (readTree ns t).map some = found.map Candidate.decode?

def InOrder (found : List Candidate) : Prop := found.Pairwise fun x y => x.comment.place ≤ y.comment.place

lemma Candidate.By.irrefl {first second : Candidate → List ℕ} : ¬ x.By first second x := by
  rintro (hlt | ⟨-, hlt | ⟨-, c, d, hc, hd, hlt⟩⟩)
  · exact lt_irrefl _ hlt
  · exact lt_irrefl _ hlt
  · obtain rfl := Option.some.inj (hc.symm.trans hd)
    exact lt_irrefl _ hlt

lemma map_some_filterMap {α β : Type} (f : α → Option β) (l : List α) :
    (l.filterMap f).map some = (l.filter fun x => (f x).isSome).map f := by
  induction l with
  | nil => rfl
  | cons x l ih =>
    cases hx : f x with
    | none => simpa [hx] using ih
    | some y => simpa [hx] using ih

lemma inOrder_iff {found : List Candidate} (h : found.Pairwise (Candidate.By (·.piece.place) (·.comment.place))) :
    InOrder found ↔ ∀ x ∈ found, ∀ y ∈ found, x.comment.place < y.comment.place → x.piece.place ≤ y.piece.place := by
  constructor
  · intro hcomments x hx y hy hlt
    obtain ⟨i, hi, rfl⟩ := List.getElem_of_mem hx
    obtain ⟨j, hj, rfl⟩ := List.getElem_of_mem hy
    rcases lt_trichotomy i j with hij | rfl | hji
    · rcases List.pairwise_iff_getElem.1 h i j hi hj hij with hpiece | ⟨hpiece, -⟩
      · exact hpiece.le
      · exact hpiece.le
    · exact absurd hlt (lt_irrefl _)
    · exact absurd hlt (List.pairwise_iff_getElem.1 hcomments j i hj hi hji).not_gt
  · intro hpieces
    refine h.imp_of_mem fun {x y} hx hy hxy => not_lt.1 fun hlt => ?_
    have hle := hpieces y hy x hx hlt
    rcases hxy with hpiece | ⟨-, hcomment | ⟨hcomment, -⟩⟩
    · exact absurd hle (not_le.2 hpiece)
    · exact absurd hlt hcomment.not_gt
    · exact absurd hlt hcomment.not_gt

/-- An annotation is read for each comment with the pattern of the namespace, and for each plain piece that
the node right after it imports, if it is well formed, and for nothing else. They come in the order of the
imported pieces, which is that of the comments unless an annotated import stands within another one. -/
theorem readTree_exactly (ns : String) (t : Tree) : ∃ found : List Candidate, Reads ns t found ∧
    found.Pairwise (Candidate.By (·.piece.place) (·.comment.place)) ∧
    (∀ x ∈ found, x.comment.tree.text <+: t.text.drop (t.offsetAt x.comment.place) ∧
      x.piece.tree.text <+: t.text.drop (t.offsetAt x.piece.place)) ∧
    (InOrder found ↔
      ∀ x ∈ found, ∀ y ∈ found, x.comment.place < y.comment.place → x.piece.place ≤ y.piece.place) := by
  have hsorted := (sorted_candidates ns t).filter fun x => x.decode?.isSome
  refine ⟨(candidates ns t).filter fun x => x.decode?.isSome, ⟨fun x => ?_, ?_, ?_⟩, hsorted, fun x hx => ?_,
    inOrder_iff hsorted⟩
  · rw [List.mem_filter, mem_candidates, and_assoc]
  · exact hsorted.imp fun h heq => by
      subst heq
      exact h.irrefl
  · exact map_some_filterMap _ _
  · obtain ⟨-, next, hdirectly, himports⟩ := mem_candidates.1 (List.mem_of_mem_filter hx)
    exact ⟨Tree.text_of_at? hdirectly.has_comment, Tree.text_of_at? (himports.has hdirectly.has_next).1⟩

def within : String :=
  "# wukong.mindvalley.dev/config-secrets-location: vault:secret/a#b\n" ++
  "import_config \"x#\x7b\n" ++
  "  # wukong.mindvalley.dev/config-secrets-location: vault:secret/c#d\n" ++
  "  import_config \"y\"\n\x7dz\"\n"

def Candidate.name? (x : Candidate) : Option String := x.decode?.map fun a => a.locator.name

lemma readTree_within :
    ((Source.parse within).hasError = false ∧
      (readTree defaultNamespace (Source.parse within).tree).map (fun a => (a.locator.name, a.destination)) =
        [("b", "x"), ("d", "y"), ("b", "z")]) ∧
    ∀ x ∈ candidates defaultNamespace (Source.parse within).tree,
      (x.name? = some "b" → x.comment.place = [0]) ∧ (x.name? = some "d" → x.comment.place = [2, 2, 0, 2, 2]) := by
  decide +kernel

theorem not_inOrder_within : (Source.parse within).hasError = false ∧
    (readTree defaultNamespace (Source.parse within).tree).map (fun a => (a.locator.name, a.destination)) =
      [("b", "x"), ("d", "y"), ("b", "z")] ∧
    ¬ ∃ found, Reads defaultNamespace (Source.parse within).tree found ∧ InOrder found := by
  obtain ⟨⟨hclean, hread⟩, hplaces⟩ := readTree_within
  refine ⟨hclean, hread, ?_⟩
  rintro ⟨found, hreads, horder⟩
  have hnames : found.map Candidate.name? = [some "b", some "d", some "b"] := by
    have hdecoded := congrArg (List.map (Option.map fun a : Annotation => a.locator.name)) hreads.read
    have hfirsts := congrArg (List.map fun a : String × String => some a.1) hread
    rw [List.map_map] at hdecoded hfirsts
    rw [List.map_map] at hdecoded
    exact hdecoded.symm.trans hfirsts
  have hcandidate (x : Candidate) (hx : x ∈ found) : x ∈ candidates defaultNamespace (Source.parse within).tree := by
    obtain ⟨hhead, hnext, -⟩ := (hreads.mem_iff x).1 hx
    exact mem_candidates.2 ⟨hhead, hnext⟩
  have hlength : found.length = 3 := by simpa using congrArg List.length hnames
  obtain ⟨x, y, z, rfl⟩ := List.length_eq_three.1 hlength
  obtain ⟨hx, hnames⟩ := List.cons.inj hnames
  obtain ⟨hy, hnames⟩ := List.cons.inj hnames
  obtain ⟨hz, -⟩ := List.cons.inj hnames
  have hyPlace := (hplaces y (hcandidate y (by simp))).2 hy
  have hzPlace := (hplaces z (hcandidate z (by simp))).1 hz
  have hyz := (List.pairwise_cons.1 (List.pairwise_cons.1 horder).2).1 z (by simp)
  rw [hyPlace, hzPlace] at hyz
  exact absurd hyz (by decide)

end Reading

end ConfigKeeper.Annotation
