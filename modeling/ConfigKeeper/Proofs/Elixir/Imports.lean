import ConfigKeeper.Proofs.Elixir.Spots

/-!
The imports that a comment can stand before: bare, in an `if` that checks for the file, or after such a
check and an operator.
-/

namespace ConfigKeeper.Elixir

variable {t : Tree} {s c p target string : Spot} {call : StringCall} {shape : ImportShape} {k : Kind}

structure CallsWith (s target string : Spot) : Prop where
  call : s.kind = .call
  target : s.firstPart? = some target
  arguments : ∃ args, s.childOfKind? .arguments = some args ∧ args.namedChildren = [string]
  string : string.kind = .string

def ImportsPiece (s p : Spot) : Prop :=
  ∃ target string, CallsWith s target string ∧ target.kind = .identifier ∧ target.text ∈ importNames ∧
    p ∈ pieces string

def ChecksPiece (s c : Spot) : Prop :=
  ∃ target string, CallsWith s target string ∧ target.text = existsName ∧ c ∈ pieces string

/-- A node imports a plain piece, behind a check of an equal piece if there is one. -/
inductive Imports (s : Spot) : Option Spot → Spot → Prop
  | bare {p : Spot} (imports : ImportsPiece s p) : Imports s none p
  | conditional {word args check block call c p : Spot} (kind : s.kind = .call)
      (first : s.firstPart? = some word) (plain : word.kind = .identifier) (isWord : word.text = conditionalWord)
      (condition : s.childOfKind? .arguments = some args ∧ args.namedChildren.head? = some check)
      (body : s.childOfKind? .doBlock = some block ∧ block.namedChildren.head? = some call)
      (checks : ChecksPiece check c) (imports : ImportsPiece call p) (equal : c.text = p.text) :
      Imports s (some c) p
  | joined {check operator call c p : Spot} (kind : s.kind = .binary) (left : s.firstPart? = some check)
      (between : s.childOfKind? .operator = some operator) (isAnd : operator.text ∈ andOperators)
      (right : s.lastPart? = some call)
      (checks : ChecksPiece check c) (imports : ImportsPiece call p) (equal : c.text = p.text) :
      Imports s (some c) p

section Reading

lemma stringCall?_eq_some_iff : stringCall? s = some call ↔
    ∃ string, CallsWith s call.target string ∧ call.pieces = pieces string := by
  rw [stringCall?]
  constructor
  · intro h
    split at h
    · next hk =>
      split at h
      · next target args hfirst hargs =>
        split at h
        · next string hone =>
          split at h
          · next hs =>
            obtain rfl := Option.some.inj h
            exact ⟨string, ⟨hk, hfirst, ⟨args, hargs, hone⟩, hs⟩, rfl⟩
          · cases h
        · cases h
      · cases h
    · cases h
  · rintro ⟨string, ⟨hk, hfirst, ⟨args, hargs, hone⟩, hs⟩, hpieces⟩
    rw [if_pos hk, hfirst, hargs]
    simp only [hone, if_pos hs, ← hpieces]

lemma namedStringCall?_eq_some_iff :
    namedStringCall? s = some call ↔ stringCall? s = some call ∧ call.target.kind = .identifier := by
  rw [namedStringCall?]
  cases stringCall? s with
  | none => simp
  | some found =>
    by_cases hk : found.target.kind = .identifier
    · simp only [if_pos hk, Option.some.injEq]
      exact ⟨fun h => ⟨h, h ▸ hk⟩, And.left⟩
    · simp only [if_neg hk, Option.some.injEq]
      exact iff_of_false (by simp) fun h => hk (h.1 ▸ h.2)

lemma importsPiece_iff : ImportsPiece s p ↔
    ∃ call, namedStringCall? s = some call ∧ call.target.text ∈ importNames ∧ p ∈ call.pieces := by
  simp only [namedStringCall?_eq_some_iff, stringCall?_eq_some_iff, ImportsPiece]
  constructor
  · rintro ⟨target, string, hcall, hplain, hname, hp⟩
    exact ⟨⟨target, pieces string⟩, ⟨⟨string, hcall, rfl⟩, hplain⟩, hname, hp⟩
  · rintro ⟨⟨target, _⟩, ⟨⟨string, hcall, rfl⟩, hplain⟩, hname, hp⟩
    exact ⟨target, string, hcall, hplain, hname, hp⟩

lemma checksPiece_iff : ChecksPiece s c ↔
    ∃ call, stringCall? s = some call ∧ call.target.text = existsName ∧ c ∈ call.pieces := by
  simp only [stringCall?_eq_some_iff, ChecksPiece]
  constructor
  · rintro ⟨target, string, hcall, hname, hc⟩
    exact ⟨⟨target, pieces string⟩, ⟨string, hcall, rfl⟩, hname, hc⟩
  · rintro ⟨⟨target, _⟩, ⟨string, hcall, rfl⟩, hname, hc⟩
    exact ⟨target, string, hcall, hname, hc⟩

lemma exists_importsPiece_iff {o : Option Spot} : (∃ s, o = some s ∧ ImportsPiece s p) ↔
    ∃ call, o.bind namedStringCall? = some call ∧ call.target.text ∈ importNames ∧ p ∈ call.pieces := by
  cases o with
  | none => simp
  | some s =>
    simp only [Option.some.injEq, exists_eq_left', Option.bind_some]
    exact importsPiece_iff

lemma exists_checksPiece_iff {o : Option Spot} : (∃ s, o = some s ∧ ChecksPiece s c) ↔
    ∃ call, o.bind stringCall? = some call ∧ call.target.text = existsName ∧ c ∈ call.pieces := by
  cases o with
  | none => simp
  | some s =>
    simp only [Option.some.injEq, exists_eq_left', Option.bind_some]
    exact checksPiece_iff

lemma conditional?_eq_some_iff : conditional? s = some shape ↔
    ∃ word args block check call, s.kind = .call ∧ s.firstPart? = some word ∧ word.kind = .identifier ∧
      (s.childOfKind? .arguments = some args ∧ args.namedChildren.head?.bind stringCall? = some check) ∧
      (s.childOfKind? .doBlock = some block ∧ block.namedChildren.head?.bind namedStringCall? = some call) ∧
      shape = .conditional word.text check call := by
  rw [conditional?]
  constructor
  · intro h
    split at h
    · next hk =>
      split at h
      · next word args block hword hargs hblock =>
        split at h
        · next hplain =>
          split at h
          · next check call hcheck hcall =>
            exact ⟨word, args, block, check, call, hk, hword, hplain, ⟨hargs, hcheck⟩, ⟨hblock, hcall⟩,
              (Option.some.inj h).symm⟩
          · cases h
        · cases h
      · cases h
    · cases h
  · rintro ⟨word, args, block, check, call, hk, hword, hplain, ⟨hargs, hcheck⟩, ⟨hblock, hcall⟩, rfl⟩
    simp only [if_pos hk, hword, hargs, hblock, if_pos hplain, hcheck, hcall]

lemma joined?_eq_some_iff : joined? s = some shape ↔
    ∃ check call, s.kind = .binary ∧ s.firstPart?.bind stringCall? = some check ∧
      s.lastPart?.bind namedStringCall? = some call ∧
      shape = .joined ((s.childOfKind? .operator).elim "" Spot.text) check call := by
  rw [joined?]
  constructor
  · intro h
    split at h
    · next hk =>
      split at h
      · next check call hcheck hcall => exact ⟨check, call, hk, hcheck, hcall, (Option.some.inj h).symm⟩
      · cases h
    · cases h
  · rintro ⟨check, call, hk, hcheck, hcall, rfl⟩
    simp only [if_pos hk, hcheck, hcall]

lemma importShape?_eq_some_iff : importShape? s = some shape ↔
    (∃ call, namedStringCall? s = some call ∧ shape = .bare call) ∨ conditional? s = some shape ∨
      joined? s = some shape := by
  have hbinary (h : joined? s = some shape) : s.kind = .binary := by
    obtain ⟨_, _, hk, -⟩ := joined?_eq_some_iff.1 h
    exact hk
  rw [importShape?]
  cases hcall : namedStringCall? s with
  | some call =>
    obtain ⟨string, hwith, -⟩ := stringCall?_eq_some_iff.1 (namedStringCall?_eq_some_iff.1 hcall).1
    obtain ⟨args, hargs, hone⟩ := hwith.arguments
    have hno : conditional? s ≠ some shape := by
      intro h
      obtain ⟨_, args', _, check, _, -, -, -, ⟨hargs', hcheck⟩, -⟩ := conditional?_eq_some_iff.1 h
      obtain rfl := Option.some.inj (hargs.symm.trans hargs')
      rw [hone] at hcheck
      obtain ⟨_, hcheck, -⟩ := stringCall?_eq_some_iff.1 hcheck
      exact absurd (hcheck.call.symm.trans hwith.string) (by decide)
    have hno' : joined? s ≠ some shape := fun h =>
      absurd (hwith.call.symm.trans (hbinary h)) (by decide)
    simp [hno, hno', eq_comm]
  | none =>
    simp only [false_and, exists_false, false_or, reduceCtorEq]
    cases hconditional : conditional? s with
    | some found =>
      obtain ⟨_, _, _, _, _, hk, -⟩ := conditional?_eq_some_iff.1 hconditional
      have hno' : joined? s ≠ some shape := fun h => absurd (hk.symm.trans (hbinary h)) (by decide)
      simp [hno']
    | none => simp

lemma namedStringCall?_of_bare (h : importShape? s = some (.bare call)) : namedStringCall? s = some call := by
  rcases importShape?_eq_some_iff.1 h with ⟨_, hcall, heq⟩ | hconditional | hjoined
  · rwa [ImportShape.bare.inj heq]
  · obtain ⟨_, _, _, _, _, -, -, -, -, -, heq⟩ := conditional?_eq_some_iff.1 hconditional
    cases heq
  · obtain ⟨_, _, -, -, -, heq⟩ := joined?_eq_some_iff.1 hjoined
    cases heq

end Reading

section Guards

lemma mem_pairs {checks calls : List Spot} :
    (c, p) ∈ calls.flatMap (fun p => checks.map fun c => (c, p)) ↔ c ∈ checks ∧ p ∈ calls := by
  simp [and_comm]

lemma isGuard_conditional {word : String} {check : StringCall} :
    (ImportShape.conditional word check call).isGuard = true ↔
      check.target.text = existsName ∧ word = conditionalWord := by
  simp [ImportShape.isGuard]

lemma isGuard_joined {word : String} {check : StringCall} :
    (ImportShape.joined word check call).isGuard = true ↔ check.target.text = existsName ∧ word ∈ andOperators := by
  simp [ImportShape.isGuard]

lemma operator_iff : (s.childOfKind? .operator).elim "" Spot.text ∈ andOperators ↔
    ∃ operator, s.childOfKind? .operator = some operator ∧ operator.text ∈ andOperators := by
  cases s.childOfKind? .operator with
  | none => exact iff_of_false (by decide) (by simp)
  | some operator => simp

end Guards

section Places

lemma mem_children_of_firstPart? (h : s.firstPart? = some c) : c ∈ s.children :=
  List.mem_of_mem_filter (List.mem_of_mem_head? h)

lemma mem_children_of_lastPart? (h : s.lastPart? = some c) : c ∈ s.children :=
  List.mem_of_mem_filter (List.mem_of_mem_getLast? h)

lemma mem_children_of_childOfKind? (h : s.childOfKind? k = some c) : c ∈ s.children := List.mem_of_find?_eq_some h

lemma mem_children_of_namedChildren (h : s.namedChildren.head? = some c) : c ∈ s.children :=
  List.mem_of_mem_filter (List.mem_of_mem_head? h)

lemma ImportsPiece.has (hs : t.Has s) (h : ImportsPiece s p) : t.Has p ∧ isPlain p.tree = true := by
  obtain ⟨target, string, hcall, -, -, hp⟩ := h
  obtain ⟨args, hargs, hone⟩ := hcall.arguments
  have hstring : t.Has string :=
    (hs.child (mem_children_of_childOfKind? hargs)).child (mem_children_of_namedChildren (by rw [hone]; rfl))
  obtain ⟨hchild, hplain⟩ := List.mem_filter.1 hp
  exact ⟨hstring.child hchild, hplain⟩

lemma Imports.has (hs : t.Has s) {check : Option Spot} (h : Imports s check p) :
    t.Has p ∧ isPlain p.tree = true := by
  cases h with
  | bare imports => exact imports.has hs
  | conditional _ _ _ _ _ body _ imports _ =>
    exact imports.has ((hs.child (mem_children_of_childOfKind? body.1)).child (mem_children_of_namedChildren body.2))
  | joined _ _ _ _ right _ imports _ => exact imports.has (hs.child (mem_children_of_lastPart? right))

lemma sorted_listed (place : List ℕ) (i : ℕ) (ts : List Tree) :
    (listed place i ts).Pairwise fun r s => r.place < s.place := by
  induction ts generalizing i with
  | nil => exact .nil
  | cons t ts ih =>
    refine List.pairwise_cons.2 ⟨fun s hs => ?_, ih (i + 1)⟩
    obtain ⟨j, -, hplace⟩ := mem_listed.1 hs
    rw [hplace]
    exact Tree.lt_of_child_lt (by omega) [] []

lemma sorted_pieces (string : Spot) : (pieces string).Pairwise fun r s => r.place < s.place :=
  (sorted_listed _ _ _).filter _

lemma sorted_of_stringCall? (h : stringCall? s = some call) : call.pieces.Pairwise fun r s => r.place < s.place := by
  obtain ⟨string, -, hpieces⟩ := stringCall?_eq_some_iff.1 h
  rw [hpieces]
  exact sorted_pieces string

lemma sorted_pairs {checks calls : List Spot} (hchecks : checks.Pairwise fun r s => r.place < s.place)
    (hcalls : calls.Pairwise fun r s => r.place < s.place) :
    (calls.flatMap fun p => checks.map fun c => (c, p)).Pairwise fun a b =>
      a.2.place < b.2.place ∨ a.2.place = b.2.place ∧ a.1.place < b.1.place := by
  refine List.pairwise_flatMap.2 ⟨fun p _ => ?_, hcalls.imp fun hlt a ha b hb => ?_⟩
  · exact List.pairwise_map.2 (hchecks.imp fun hlt => .inr ⟨rfl, hlt⟩)
  · obtain ⟨_, _, rfl⟩ := List.mem_map.1 ha
    obtain ⟨_, _, rfl⟩ := List.mem_map.1 hb
    exact .inl hlt

lemma sorted_piecePairs (h : importShape? s = some shape) : shape.piecePairs.Pairwise fun a b =>
    a.2.place < b.2.place ∨ a.2.place = b.2.place ∧ a.1.place < b.1.place := by
  rcases importShape?_eq_some_iff.1 h with ⟨call, -, rfl⟩ | hconditional | hjoined
  · exact .nil
  · obtain ⟨_, _, _, check, call, -, -, -, ⟨-, hcheck⟩, ⟨-, hcall⟩, rfl⟩ := conditional?_eq_some_iff.1 hconditional
    obtain ⟨_, -, hcheck⟩ := Option.bind_eq_some_iff.1 hcheck
    obtain ⟨_, -, hcall⟩ := Option.bind_eq_some_iff.1 hcall
    exact sorted_pairs (sorted_of_stringCall? hcheck) (sorted_of_stringCall? (namedStringCall?_eq_some_iff.1 hcall).1)
  · obtain ⟨check, call, -, hcheck, hcall, rfl⟩ := joined?_eq_some_iff.1 hjoined
    obtain ⟨_, -, hcheck⟩ := Option.bind_eq_some_iff.1 hcheck
    obtain ⟨_, -, hcall⟩ := Option.bind_eq_some_iff.1 hcall
    exact sorted_pairs (sorted_of_stringCall? hcheck) (sorted_of_stringCall? (namedStringCall?_eq_some_iff.1 hcall).1)

end Places

end ConfigKeeper.Elixir
