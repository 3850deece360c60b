import ConfigKeeper.Proofs.Elixir.Nodes

/-!
Only the root of a parsed tree has the kind of a whole source. No function of the grammar makes such a node,
whatever its fuel; so neither do the trees that the drafts settle to.
-/

namespace ConfigKeeper.Elixir

namespace Draft

mutual

def Inner : Draft → Prop
  | .token k _ _ => k ≠ .source
  | .node k cs => k ≠ .source ∧ AllInner cs

def AllInner : List Draft → Prop
  | [] => True
  | d :: ds => d.Inner ∧ AllInner ds

end

variable {k : Kind} {d e f : Draft} {ds es : List Draft}

@[simp, grind =]
lemma node_inner : (Draft.node k ds).Inner ↔ k ≠ .source ∧ AllInner ds := by rw [Inner]

@[simp, grind .]
lemma allInner_nil : AllInner [] := trivial

@[simp, grind =]
lemma allInner_cons : AllInner (d :: ds) ↔ d.Inner ∧ AllInner ds := by rw [AllInner]

@[simp, grind =]
lemma allInner_append : AllInner (ds ++ es) ↔ AllInner ds ∧ AllInner es := by
  induction ds with
  | nil => simp
  | cons d ds ih => simp [ih, and_assoc]

@[grind =]
lemma allInner_pair : AllInner [d, e] ↔ d.Inner ∧ e.Inner := by simp

@[grind =]
lemma allInner_triple : AllInner [d, e, f] ↔ d.Inner ∧ e.Inner ∧ f.Inner := by simp

end Draft

open Draft

section Parts

variable {c : Context} {s : Spaced} {k : Kind} {d arrow : Draft} {left ds : List Draft} {read more : List Item}

@[simp, grind =]
lemma draft_inner : (s.draft k).Inner ↔ k ≠ .source := by rw [Spaced.draft, Draft.Inner]

@[simp, grind .]
lemma mark_inner (s : Spaced) : s.mark.Inner := by simp [Spaced.mark]

@[grind =]
lemma allInner_mark : AllInner (s.mark :: ds) ↔ AllInner ds := by simp

@[simp, grind .]
lemma asOperator_inner (s : Spaced) : s.asOperator.Inner := by simp [Spaced.asOperator]

@[simp, grind .]
lemma missing_inner : missing.Inner := by simp [missing]

@[simp, grind .]
lemma misplaced_inner (s : Spaced) : (misplaced s).Inner := by simp [misplaced]

def Item.Inner : Item → Prop
  | .plain d => d.Inner
  | .head left arrow => AllInner left ∧ arrow.Inner

def ItemsInner (read : List Item) : Prop := ∀ i ∈ read, i.Inner

@[grind .]
lemma itemsInner_nil : ItemsInner [] := by simp [ItemsInner]

@[grind =]
lemma itemsInner_plain : ItemsInner (.plain d :: read) ↔ d.Inner ∧ ItemsInner read := by
  simp [ItemsInner, Item.Inner]

@[grind =]
lemma itemsInner_head : ItemsInner (.head left arrow :: read) ↔ (AllInner left ∧ arrow.Inner) ∧ ItemsInner read := by
  simp [ItemsInner, Item.Inner]

@[grind =]
lemma itemsInner_append : ItemsInner (read ++ more) ↔ ItemsInner read ∧ ItemsInner more := by
  simp [ItemsInner, or_imp, forall_and]

lemma clausesOf_inner (h : ItemsInner read) : AllInner (clausesOf read).1 ∧ AllInner (clausesOf read).2 := by
  induction read with
  | nil => simp [clausesOf]
  | cons i read ih => cases i <;> grind [clausesOf]

@[grind →]
lemma grouped_inner (h : ItemsInner read) : AllInner (grouped read) := by
  simpa [grouped] using clausesOf_inner h

lemma nextOperator_inner {ts rest : List Spaced} {level : ℕ × Bool} {name : String} :
    nextOperator c ts = some (level, ds, name, rest) → AllInner ds := by
  fun_cases nextOperator c ts
  all_goals grind [Option.map_eq_some_iff]

end Parts

section Functions

variable {fuel : ℕ} {c : Context} {s : Spaced} {ts rest : List Spaced} {k : Kind} {level : ℕ} {d left : Draft}
  {ds : List Draft} {read : List Item} {apart after headed bare trailing fresh : Bool}

/-- What the functions of the grammar read with some fuel has no such node. -/
structure ReadsInner (fuel : ℕ) : Prop where
  statements : ∀ {c apart after ts read rest}, statements fuel c apart after ts = (read, rest) → ItemsInner read
  statement : ∀ {c ts read headed rest}, statement fuel c ts = some (read, headed, rest) → ItemsInner read
  argumentList : ∀ {c ts ds rest}, argumentList fuel c ts = (ds, rest) → AllInner ds
  pairs : ∀ {c ts d rest}, pairs fuel c ts = (d, rest) → d.Inner
  morePairs : ∀ {c ts ds rest}, morePairs fuel c ts = (ds, rest) → AllInner ds
  pair : ∀ {c ts d rest}, pair fuel c ts = (d, rest) → d.Inner
  expression : ∀ {c level ts d rest}, expression fuel c level ts = some (d, rest) → d.Inner
  binaries : ∀ {c level left ts d rest}, binaries fuel c level left ts = (d, rest) → left.Inner → d.Inner
  operand : ∀ {c ts d rest}, operand fuel c ts = some (d, rest) → d.Inner
  withDoBlock : ∀ {c ds ts d rest}, withDoBlock fuel c ds ts = (d, rest) → AllInner ds → d.Inner
  sideBlocks : ∀ {c ts ds rest}, sideBlocks fuel c ts = (ds, rest) → AllInner ds
  callTail : ∀ {c bare left ts d rest}, callTail fuel c bare left ts = (d, rest) → left.Inner → d.Inner
  attached : ∀ {c left ts d rest}, attached fuel c left ts = (d, rest) → left.Inner → d.Inner
  primary : ∀ {c ts d rest}, primary fuel c ts = some (d, rest) → d.Inner
  structName : ∀ {c ts ds rest}, structName fuel c ts = (ds, rest) → AllInner ds
  quoted : ∀ {k c s ts d rest}, quoted fuel k c s ts = (d, rest) → k ≠ .source → d.Inner
  quotedParts : ∀ {c ts ds rest}, quotedParts fuel c ts = (ds, rest) → AllInner ds
  items : ∀ {c trailing fresh ts ds rest}, items fuel c trailing fresh ts = (ds, rest) → AllInner ds

lemma readsInner_zero : ReadsInner 0 := by
  constructor
  all_goals intros
  all_goals grind [statements, statement, argumentList, pairs, morePairs, pair, expression, binaries, operand,
    withDoBlock, sideBlocks, callTail, attached, primary, structName, quoted, quotedParts, items]

section Step

variable (h : ReadsInner fuel)

include h

lemma statements_inner :
    statements (fuel + 1) c apart after ts = (read, rest) → ItemsInner read := by
  -- the cases of a function are taken at a variable, which leaves the equation for the fuel
  generalize hn : fuel + 1 = n
  fun_cases statements n c apart after ts
  all_goals cases hn
  all_goals grind [→ h.statements, → h.statement]

lemma statement_inner :
    statement (fuel + 1) c ts = some (read, headed, rest) → ItemsInner read := by
  generalize hn : fuel + 1 = n
  fun_cases statement n c ts
  all_goals cases hn
  all_goals grind [→ h.pairs, → h.expression, → h.argumentList]

lemma argumentList_inner :
    argumentList (fuel + 1) c ts = (ds, rest) → AllInner ds := by
  generalize hn : fuel + 1 = n
  fun_cases argumentList n c ts
  all_goals cases hn
  all_goals grind [→ h.pairs, → h.expression, → h.argumentList]

lemma pairs_inner :
    pairs (fuel + 1) c ts = (d, rest) → d.Inner := by
  generalize hn : fuel + 1 = n
  fun_cases pairs n c ts
  all_goals cases hn
  all_goals grind [→ h.pair, → h.morePairs]

lemma morePairs_inner :
    morePairs (fuel + 1) c ts = (ds, rest) → AllInner ds := by
  generalize hn : fuel + 1 = n
  fun_cases morePairs n c ts
  all_goals cases hn
  all_goals grind [→ h.pair, → h.morePairs]

lemma pair_inner :
    pair (fuel + 1) c ts = (d, rest) → d.Inner := by
  generalize hn : fuel + 1 = n
  fun_cases pair n c ts
  all_goals cases hn
  all_goals grind [→ h.quoted, → h.expression]

lemma expression_inner :
    expression (fuel + 1) c level ts = some (d, rest) → d.Inner := by
  generalize hn : fuel + 1 = n
  fun_cases expression n c level ts
  all_goals cases hn
  all_goals grind [→ h.operand, → h.binaries]

lemma binaries_inner (hpre : left.Inner) :
    binaries (fuel + 1) c level left ts = (d, rest) → d.Inner := by
  generalize hn : fuel + 1 = n
  fun_cases binaries n c level left ts
  all_goals cases hn
  all_goals grind [→ h.binaries, → h.expression, → h.pairs, → nextOperator_inner]

lemma operand_inner :
    operand (fuel + 1) c ts = some (d, rest) → d.Inner := by
  generalize hn : fuel + 1 = n
  fun_cases operand n c ts
  all_goals cases hn
  all_goals try simp only [List.any_cons, List.any_nil] at *
  all_goals grind [→ h.binaries, → h.expression, → h.operand, → h.primary, → h.attached]

lemma withDoBlock_inner (hpre : AllInner ds) :
    withDoBlock (fuel + 1) c ds ts = (d, rest) → d.Inner := by
  generalize hn : fuel + 1 = n
  fun_cases withDoBlock n c ds ts
  all_goals cases hn
  all_goals rintro ⟨⟩
  all_goals simp only [node_inner, allInner_append, ne_eq, reduceCtorEq, not_false_eq_true, true_and]
  all_goals grind [→ h.statements, → h.sideBlocks]

lemma sideBlocks_inner :
    sideBlocks (fuel + 1) c ts = (ds, rest) → AllInner ds := by
  generalize hn : fuel + 1 = n
  fun_cases sideBlocks n c ts
  all_goals cases hn
  all_goals grind [→ h.statements, → h.sideBlocks]

lemma callTail_inner (hpre : left.Inner) :
    callTail (fuel + 1) c bare left ts = (d, rest) → d.Inner := by
  generalize hn : fuel + 1 = n
  fun_cases callTail n c bare left ts
  all_goals cases hn
  all_goals grind [→ h.items, → h.withDoBlock, → h.pairs, → h.expression, → h.argumentList]

lemma attached_inner (hpre : left.Inner) :
    attached (fuel + 1) c left ts = (d, rest) → d.Inner := by
  generalize hn : fuel + 1 = n
  fun_cases attached n c left ts
  all_goals cases hn
  all_goals grind [→ h.items, → h.withDoBlock, → h.attached, → h.quoted, → h.callTail]

lemma primary_inner :
    primary (fuel + 1) c ts = some (d, rest) → d.Inner := by
  generalize hn : fuel + 1 = n
  fun_cases primary n c ts
  all_goals cases hn
  all_goals grind [→ h.items, → h.structName, → h.statements, → h.quoted, → h.callTail]

lemma structName_inner :
    structName (fuel + 1) c ts = (ds, rest) → AllInner ds := by
  generalize hn : fuel + 1 = n
  fun_cases structName n c ts
  all_goals cases hn
  all_goals grind [→ h.structName]

lemma quoted_inner (hpre : k ≠ .source) :
    quoted (fuel + 1) k c s ts = (d, rest) → d.Inner := by
  generalize hn : fuel + 1 = n
  fun_cases quoted n k c s ts
  all_goals cases hn
  all_goals grind [→ h.quotedParts]

lemma quotedParts_inner :
    quotedParts (fuel + 1) c ts = (ds, rest) → AllInner ds := by
  generalize hn : fuel + 1 = n
  fun_cases quotedParts n c ts
  all_goals cases hn
  all_goals grind [→ h.quotedParts, → h.statements]

lemma items_inner :
    items (fuel + 1) c trailing fresh ts = (ds, rest) → AllInner ds := by
  generalize hn : fuel + 1 = n
  fun_cases items n c trailing fresh ts
  all_goals cases hn
  all_goals grind [→ h.items, → h.pairs, → h.expression]

end Step

lemma readsInner (fuel : ℕ) : ReadsInner fuel := by
  induction fuel with
  | zero => exact readsInner_zero
  | succ fuel h =>
    exact {
      statements := statements_inner h
      statement := statement_inner h
      argumentList := argumentList_inner h
      pairs := pairs_inner h
      morePairs := morePairs_inner h
      pair := pair_inner h
      expression := expression_inner h
      binaries := fun hread hpre => binaries_inner h hpre hread
      operand := operand_inner h
      withDoBlock := fun hread hpre => withDoBlock_inner h hpre hread
      sideBlocks := sideBlocks_inner h
      callTail := fun hread hpre => callTail_inner h hpre hread
      attached := fun hread hpre => attached_inner h hpre hread
      primary := primary_inner h
      structName := structName_inner h
      quoted := fun hread hpre => quoted_inner h hpre hread
      quotedParts := quotedParts_inner h
      items := items_inner h }

end Functions

namespace Tree

variable {t u : Tree} {k : Kind} {cs : List Tree}

def Sourceless (t : Tree) : Prop := ∀ p u, t.at? p = some u → u.kind ≠ .source

lemma sourceless_node : (Tree.node k cs).Sourceless ↔ k ≠ .source ∧ ∀ c ∈ cs, c.Sourceless := by
  constructor
  · refine fun h => ⟨h [] _ rfl, fun c hc p u hu => ?_⟩
    obtain ⟨i, hi, rfl⟩ := List.getElem_of_mem hc
    exact h (i :: p) u (by simpa [at?, children, hi] using hu)
  · rintro ⟨hk, hcs⟩ p u hu
    cases p with
    | nil =>
      obtain rfl := Option.some.inj hu
      exact hk
    | cons i p =>
      obtain ⟨c, hc, hu⟩ := Option.bind_eq_some_iff.1 hu
      exact hcs c (List.mem_of_getElem? hc) p u hu

lemma sourceless_leaf {text : List Char} (hk : k ≠ .source) : (Tree.leaf k text).Sourceless := by
  rintro (_ | ⟨i, p⟩) u hu
  · obtain rfl := Option.some.inj hu
    exact hk
  · cases hu

/-- A tree whose root, and no other node, has the kind of a whole source. -/
def Rooted (t : Tree) : Prop := t.kind = .source ∧ ∀ s, t.Has s → s.kind = .source → s.place = []

lemma rooted_node (h : ∀ c ∈ cs, c.Sourceless) : (Tree.node .source cs).Rooted := by
  refine ⟨rfl, ?_⟩
  rintro ⟨_ | ⟨i, p⟩, u⟩ hu hk
  · rfl
  · obtain ⟨c, hc, hu⟩ := Option.bind_eq_some_iff.1 hu
    exact absurd hk (h c (List.mem_of_getElem? hc) p u hu)

end Tree

namespace Draft

lemma sourceless_triviaLeaf (t : Token) : (triviaLeaf t).Sourceless := by
  rw [triviaLeaf]
  split
  · exact Tree.sourceless_leaf (by decide)
  · exact Tree.sourceless_leaf (by decide)

mutual

lemma sourceless_settle : ∀ d : Draft, d.Inner → (∀ t ∈ (settle d).1, t.Sourceless) ∧ (settle d).2.Sourceless
  | .token k lead t, h => by
    rw [settle]
    refine ⟨fun u hu => ?_, Tree.sourceless_leaf h⟩
    obtain ⟨x, -, rfl⟩ := List.mem_map.1 hu
    exact sourceless_triviaLeaf x
  | .node k [], h => by
    rw [settle]
    exact ⟨by simp, Tree.sourceless_node.2 ⟨(node_inner.1 h).1, by simp⟩⟩
  | .node k (c :: cs), h => by
    obtain ⟨hk, hc, hcs⟩ := h
    obtain ⟨hlead, hfirst⟩ := sourceless_settle c hc
    rw [settle]
    exact ⟨hlead, Tree.sourceless_node.2 ⟨hk, List.forall_mem_cons.2 ⟨hfirst, sourceless_settleRest cs hcs⟩⟩⟩

lemma sourceless_settleRest : ∀ ds : List Draft, AllInner ds → ∀ t ∈ settleRest ds, t.Sourceless
  | [], _ => by simp [settleRest]
  | c :: cs, h => by
    obtain ⟨hc, hcs⟩ := h
    obtain ⟨hlead, hfirst⟩ := sourceless_settle c hc
    rw [settleRest]
    intro t ht
    rcases List.mem_append.1 ht with ht | ht
    · exact hlead t ht
    · exact List.forall_mem_cons.2 ⟨hfirst, sourceless_settleRest cs hcs⟩ t ht

end

lemma sourceless_settle_source {ds : List Draft} (h : AllInner ds) :
    (∀ t ∈ (settle (.node .source ds)).1, t.Sourceless) ∧
      ∀ t ∈ (settle (.node .source ds)).2.children, t.Sourceless := by
  cases ds with
  | nil => simp [settle, Tree.children]
  | cons c cs =>
    obtain ⟨hc, hcs⟩ := h
    obtain ⟨hlead, hfirst⟩ := sourceless_settle c hc
    rw [settle]
    exact ⟨hlead, List.forall_mem_cons.2 ⟨hfirst, sourceless_settleRest cs hcs⟩⟩

end Draft

lemma allInner_misplaced (ts : List Spaced) : AllInner (ts.map misplaced) := by
  induction ts with
  | nil => exact allInner_nil
  | cons s ts ih => exact allInner_cons.2 ⟨misplaced_inner s, ih⟩

lemma rooted_readTree (a : List Char) : (readTree a).Rooted := by
  obtain ⟨hlead, hchildren⟩ := sourceless_settle_source (allInner_append.2
    ⟨grouped_inner ((readsInner (fuelFor (spaced (tokens a)).1)).statements (Prod.eta _).symm), allInner_misplaced _⟩)
  refine Tree.rooted_node fun t ht => ?_
  rcases List.mem_append.1 ht with ht | ht
  · rcases List.mem_append.1 ht with ht | ht
    · exact hlead t ht
    · exact hchildren t ht
  · obtain ⟨x, -, rfl⟩ := List.mem_map.1 ht
    exact sourceless_triviaLeaf x

lemma rooted_treeOf (a : List Char) : (treeOf a).Rooted := by
  unfold treeOf
  split
  · exact rooted_readTree a
  · exact Tree.rooted_node (by simpa using Tree.sourceless_leaf (by decide))

lemma rooted_parse (text : String) : (Source.parse text).tree.Rooted := by
  dsimp only [Source.parse]
  exact rooted_treeOf text.toList

end ConfigKeeper.Elixir
