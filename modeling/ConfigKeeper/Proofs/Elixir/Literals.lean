import ConfigKeeper.Proofs.Elixir.Imports

/-!
The strings of an import: the imported one and, behind a check, the checked one. A string has any number of
plain pieces, and an import is read off its pieces one by one.
-/

namespace ConfigKeeper.Elixir

variable {s c p imported : Spot} {call : StringCall} {shape : ImportShape} {check checked : Option Spot}

def CallsImport (s string : Spot) : Prop :=
  ∃ target, CallsWith s target string ∧ target.kind = .identifier ∧ target.text ∈ importNames

def CallsExists (s string : Spot) : Prop := ∃ target, CallsWith s target string ∧ target.text = existsName

/-- A node imports the file that a string names, behind a check of the file of a string if there is one. -/
inductive ImportsString (s : Spot) : Option Spot → Spot → Prop
  | bare {imported : Spot} (imports : CallsImport s imported) : ImportsString s none imported
  | conditional {word args test block call checked imported : Spot} (kind : s.kind = .call)
      (first : s.firstPart? = some word) (plain : word.kind = .identifier) (isWord : word.text = conditionalWord)
      (condition : s.childOfKind? .arguments = some args ∧ args.namedChildren.head? = some test)
      (body : s.childOfKind? .doBlock = some block ∧ block.namedChildren.head? = some call)
      (checks : CallsExists test checked) (imports : CallsImport call imported) :
      ImportsString s (some checked) imported
  | joined {test operator call checked imported : Spot} (kind : s.kind = .binary) (left : s.firstPart? = some test)
      (between : s.childOfKind? .operator = some operator) (isAnd : operator.text ∈ andOperators)
      (right : s.lastPart? = some call) (checks : CallsExists test checked) (imports : CallsImport call imported) :
      ImportsString s (some checked) imported

section Strings

lemma CallsWith.string_eq {target target' string string' : Spot} (h : CallsWith s target string)
    (h' : CallsWith s target' string') : string = string' := by
  obtain ⟨args, hargs, hone⟩ := h.arguments
  obtain ⟨args', hargs', hone'⟩ := h'.arguments
  obtain rfl := Option.some.inj (hargs.symm.trans hargs')
  exact (List.cons.inj (hone.symm.trans hone')).1

lemma CallsImport.string_eq {imported' : Spot} (h : CallsImport s imported) (h' : CallsImport s imported') :
    imported = imported' := by
  obtain ⟨target, hcall, -⟩ := h
  obtain ⟨target', hcall', -⟩ := h'
  exact hcall.string_eq hcall'

lemma CallsExists.string_eq {c' : Spot} (h : CallsExists s c) (h' : CallsExists s c') : c = c' := by
  obtain ⟨target, hcall, -⟩ := h
  obtain ⟨target', hcall', -⟩ := h'
  exact hcall.string_eq hcall'

lemma CallsImport.not_calls_first {args test : Spot} (h : CallsImport s imported)
    (hargs : s.childOfKind? .arguments = some args) (htest : args.namedChildren.head? = some test) :
    test.kind ≠ .call := by
  obtain ⟨target, hcall, -⟩ := h
  obtain ⟨args', hargs', hone⟩ := hcall.arguments
  obtain rfl := Option.some.inj (hargs.symm.trans hargs')
  rw [hone, List.head?_cons, Option.some.injEq] at htest
  rw [← htest, hcall.string]
  decide

lemma ImportsString.unique {checked' : Option Spot} {imported' : Spot} (h : ImportsString s checked imported)
    (h' : ImportsString s checked' imported') : checked = checked' ∧ imported = imported' := by
  have hcall {imported : Spot} (h : CallsImport s imported) : s.kind ≠ .binary := by
    obtain ⟨target, hcall, -⟩ := h
    rw [hcall.call]
    decide
  have hcheck {test checked : Spot} (h : CallsExists test checked) : test.kind = .call := by
    obtain ⟨target, hcall, -⟩ := h
    exact hcall.call
  cases h with
  | bare imports =>
    cases h' with
    | bare imports' => exact ⟨rfl, imports.string_eq imports'⟩
    | conditional _ _ _ _ condition' _ checks' _ =>
      exact absurd (hcheck checks') (imports.not_calls_first condition'.1 condition'.2)
    | joined hkind' => exact absurd hkind' (hcall imports)
  | conditional hkind _ _ _ condition body checks imports =>
    cases h' with
    | bare imports' => exact absurd (hcheck checks) (imports'.not_calls_first condition.1 condition.2)
    | conditional _ _ _ _ condition' body' checks' imports' =>
      obtain rfl := Option.some.inj (condition.1.symm.trans condition'.1)
      obtain rfl := Option.some.inj (condition.2.symm.trans condition'.2)
      obtain rfl := Option.some.inj (body.1.symm.trans body'.1)
      obtain rfl := Option.some.inj (body.2.symm.trans body'.2)
      exact ⟨congrArg some (checks.string_eq checks'), imports.string_eq imports'⟩
    | joined hkind' => exact absurd (hkind.symm.trans hkind') (by decide)
  | joined hkind left _ _ right checks imports =>
    cases h' with
    | bare imports' => exact absurd hkind (hcall imports')
    | conditional hkind' => exact absurd (hkind.symm.trans hkind') (by decide)
    | joined _ left' _ _ right' checks' imports' =>
      obtain rfl := Option.some.inj (left.symm.trans left')
      obtain rfl := Option.some.inj (right.symm.trans right')
      exact ⟨congrArg some (checks.string_eq checks'), imports.string_eq imports'⟩

end Strings

section Pieces

/-- A piece of an imported string, with an equal one of the checked string if there is such a string. -/
def Passes (checked : Option Spot) (imported : Spot) (check : Option Spot) (p : Spot) : Prop :=
  p ∈ pieces imported ∧ match checked with
    | none => check = none
    | some string => ∃ c ∈ pieces string, check = some c ∧ c.text = p.text

lemma importsPiece_iff_string : ImportsPiece s p ↔ ∃ imported, CallsImport s imported ∧ p ∈ pieces imported := by
  constructor
  · rintro ⟨target, string, hcall, hplain, hname, hp⟩
    exact ⟨string, ⟨target, hcall, hplain, hname⟩, hp⟩
  · rintro ⟨string, ⟨target, hcall, hplain, hname⟩, hp⟩
    exact ⟨target, string, hcall, hplain, hname, hp⟩

lemma checksPiece_iff_string : ChecksPiece s c ↔ ∃ checked, CallsExists s checked ∧ c ∈ pieces checked := by
  constructor
  · rintro ⟨target, string, hcall, hname, hc⟩
    exact ⟨string, ⟨target, hcall, hname⟩, hc⟩
  · rintro ⟨string, ⟨target, hcall, hname⟩, hc⟩
    exact ⟨target, string, hcall, hname, hc⟩

lemma imports_iff_string : Imports s check p ↔
    ∃ checked imported, ImportsString s checked imported ∧ Passes checked imported check p := by
  constructor
  · intro h
    cases h with
    | bare imports =>
      obtain ⟨imported, himports, hp⟩ := importsPiece_iff_string.1 imports
      exact ⟨none, imported, .bare himports, hp, rfl⟩
    | conditional hkind hfirst hplain hword condition body checks imports hequal =>
      obtain ⟨checked, hchecks, hc⟩ := checksPiece_iff_string.1 checks
      obtain ⟨imported, himports, hp⟩ := importsPiece_iff_string.1 imports
      exact ⟨some checked, imported, .conditional hkind hfirst hplain hword condition body hchecks himports, hp, _, hc,
        rfl, hequal⟩
    | joined hkind left between hand right checks imports hequal =>
      obtain ⟨checked, hchecks, hc⟩ := checksPiece_iff_string.1 checks
      obtain ⟨imported, himports, hp⟩ := importsPiece_iff_string.1 imports
      exact ⟨some checked, imported, .joined hkind left between hand right hchecks himports, hp, _, hc, rfl, hequal⟩
  · rintro ⟨checked, imported, h, hp, hcheck⟩
    cases h with
    | bare imports =>
      obtain rfl : check = none := hcheck
      exact .bare (importsPiece_iff_string.2 ⟨imported, imports, hp⟩)
    | conditional hkind hfirst hplain hword condition body checks imports =>
      obtain ⟨c, hc, rfl, hequal⟩ := hcheck
      exact .conditional hkind hfirst hplain hword condition body (checksPiece_iff_string.2 ⟨_, checks, hc⟩)
        (importsPiece_iff_string.2 ⟨imported, imports, hp⟩) hequal
    | joined hkind left between hand right checks imports =>
      obtain ⟨c, hc, rfl, hequal⟩ := hcheck
      exact .joined hkind left between hand right (checksPiece_iff_string.2 ⟨_, checks, hc⟩)
        (importsPiece_iff_string.2 ⟨imported, imports, hp⟩) hequal

lemma ImportsString.imports_iff (h : ImportsString s checked imported) :
    Imports s check p ↔ Passes checked imported check p := by
  rw [imports_iff_string]
  constructor
  · rintro ⟨checked', imported', h', hpasses⟩
    obtain ⟨rfl, rfl⟩ := h.unique h'
    exact hpasses
  · exact fun hpasses => ⟨checked, imported, h, hpasses⟩

end Pieces

section Shapes

def ImportShape.Keeps (shape : ImportShape) : Option Spot → Spot → Prop
  | none, imported => ∃ call, shape = .bare call ∧ call.pieces = pieces imported
  | some checked, imported => (∀ call, shape ≠ .bare call) ∧ shape.isGuard = true ∧
      shape.piecePairs = (pieces imported).flatMap fun p => (pieces checked).map fun c => (c, p)

lemma isImport_iff : shape.isImport = true ↔ shape.call.target.text ∈ importNames := List.contains_iff_mem

lemma CallsImport.exists_call (h : CallsImport s imported) : ∃ call, namedStringCall? s = some call ∧
    call.target.text ∈ importNames ∧ call.pieces = pieces imported := by
  obtain ⟨target, hcall, hplain, hname⟩ := h
  exact ⟨⟨target, pieces imported⟩,
    namedStringCall?_eq_some_iff.2 ⟨stringCall?_eq_some_iff.2 ⟨imported, hcall, rfl⟩, hplain⟩, hname, rfl⟩

lemma exists_callsImport (h : namedStringCall? s = some call) (hname : call.target.text ∈ importNames) :
    ∃ imported, CallsImport s imported ∧ call.pieces = pieces imported := by
  obtain ⟨hcall, hplain⟩ := namedStringCall?_eq_some_iff.1 h
  obtain ⟨imported, hwith, hpieces⟩ := stringCall?_eq_some_iff.1 hcall
  exact ⟨imported, ⟨call.target, hwith, hplain, hname⟩, hpieces⟩

lemma CallsExists.exists_call (h : CallsExists s c) : ∃ call, stringCall? s = some call ∧
    call.target.text = existsName ∧ call.pieces = pieces c := by
  obtain ⟨target, hcall, hname⟩ := h
  exact ⟨⟨target, pieces c⟩, stringCall?_eq_some_iff.2 ⟨c, hcall, rfl⟩, hname, rfl⟩

lemma exists_callsExists (h : stringCall? s = some call) (hname : call.target.text = existsName) :
    ∃ checked, CallsExists s checked ∧ call.pieces = pieces checked := by
  obtain ⟨checked, hwith, hpieces⟩ := stringCall?_eq_some_iff.1 h
  exact ⟨checked, ⟨call.target, hwith, hname⟩, hpieces⟩

lemma ImportsString.exists_shape (h : ImportsString s checked imported) :
    ∃ shape, importShape? s = some shape ∧ shape.isImport = true ∧ shape.Keeps checked imported := by
  cases h with
  | bare imports =>
    obtain ⟨call, hcall, hname, hpieces⟩ := imports.exists_call
    exact ⟨.bare call, importShape?_eq_some_iff.2 (.inl ⟨call, hcall, rfl⟩), isImport_iff.2 hname, call, rfl, hpieces⟩
  | conditional hkind hfirst hplain hword hcondition hbody checks imports =>
    obtain ⟨test, htest, hexists, htested⟩ := checks.exists_call
    obtain ⟨call, hcall, hname, hpieces⟩ := imports.exists_call
    have hconditional := conditional?_eq_some_iff.2 ⟨_, _, _, test, call, hkind, hfirst, hplain,
      ⟨hcondition.1, by rw [hcondition.2]; exact htest⟩, ⟨hbody.1, by rw [hbody.2]; exact hcall⟩, rfl⟩
    refine ⟨_, importShape?_eq_some_iff.2 (.inr (.inl hconditional)), isImport_iff.2 hname, by simp,
      isGuard_conditional.2 ⟨hexists, hword⟩, ?_⟩
    rw [ImportShape.piecePairs, htested, hpieces]
  | joined hkind hleft hbetween hand hright checks imports =>
    obtain ⟨test, htest, hexists, htested⟩ := checks.exists_call
    obtain ⟨call, hcall, hname, hpieces⟩ := imports.exists_call
    have hjoined := joined?_eq_some_iff.2 ⟨test, call, hkind, by rw [hleft]; exact htest, by rw [hright]; exact hcall,
      rfl⟩
    refine ⟨_, importShape?_eq_some_iff.2 (.inr (.inr hjoined)), isImport_iff.2 hname, by simp,
      isGuard_joined.2 ⟨hexists, operator_iff.2 ⟨_, hbetween, hand⟩⟩, ?_⟩
    rw [ImportShape.piecePairs, htested, hpieces]

lemma exists_importsString (h : importShape? s = some shape) (himport : shape.isImport = true)
    (hguard : (∀ call, shape ≠ .bare call) → shape.isGuard = true) :
    ∃ checked imported, ImportsString s checked imported ∧ shape.Keeps checked imported := by
  rw [isImport_iff] at himport
  rcases importShape?_eq_some_iff.1 h with ⟨call, hcall, rfl⟩ | hconditional | hjoined
  · obtain ⟨imported, himports, hpieces⟩ := exists_callsImport hcall himport
    exact ⟨none, imported, .bare himports, call, rfl, hpieces⟩
  · obtain ⟨word, args, block, test, call, hkind, hfirst, hplain, ⟨hargs, htest⟩, ⟨hblock, hcall⟩, rfl⟩ :=
      conditional?_eq_some_iff.1 hconditional
    have hguard := hguard (by simp)
    obtain ⟨hexists, hword⟩ := isGuard_conditional.1 hguard
    obtain ⟨testAt, htestAt, htest⟩ := Option.bind_eq_some_iff.1 htest
    obtain ⟨callAt, hcallAt, hcall⟩ := Option.bind_eq_some_iff.1 hcall
    obtain ⟨checked, hchecks, htested⟩ := exists_callsExists htest hexists
    obtain ⟨imported, himports, hpieces⟩ := exists_callsImport hcall himport
    refine ⟨some checked, imported,
      .conditional hkind hfirst hplain hword ⟨hargs, htestAt⟩ ⟨hblock, hcallAt⟩ hchecks himports, by simp, hguard, ?_⟩
    rw [ImportShape.piecePairs, htested, hpieces]
  · obtain ⟨test, call, hkind, htest, hcall, rfl⟩ := joined?_eq_some_iff.1 hjoined
    have hguard := hguard (by simp)
    obtain ⟨hexists, hword⟩ := isGuard_joined.1 hguard
    obtain ⟨operator, hoperator, hand⟩ := operator_iff.1 hword
    obtain ⟨testAt, htestAt, htest⟩ := Option.bind_eq_some_iff.1 htest
    obtain ⟨callAt, hcallAt, hcall⟩ := Option.bind_eq_some_iff.1 hcall
    obtain ⟨checked, hchecks, htested⟩ := exists_callsExists htest hexists
    obtain ⟨imported, himports, hpieces⟩ := exists_callsImport hcall himport
    refine ⟨some checked, imported, .joined hkind htestAt hoperator hand hcallAt hchecks himports, by simp, hguard, ?_⟩
    rw [ImportShape.piecePairs, htested, hpieces]

end Shapes

end ConfigKeeper.Elixir
