import ConfigKeeper.Proofs.Elixir.Literals
import ConfigKeeper.Proofs.Secret.Candidates

/-!
Annotations of whole strings. An annotated import is read piece by piece, so it gives one annotation with the
whole imported string just if that string passes as one piece.
-/

namespace ConfigKeeper.Elixir

def inside (string : Spot) : String := String.ofList (Tree.textOfAll string.tree.children.tail.dropLast)

def Plain (string : Spot) : Prop :=
  ∃ opening text closing, isPlain opening = false ∧ isPlain closing = false ∧
    string.tree.children = [opening, .leaf .content text, closing]

variable {t : Tree} {mark next next' string p q : Spot}

lemma Tree.Directly.next_eq (h : t.Directly (mark, next)) (h' : t.Directly (mark, next')) : next = next' := by
  obtain ⟨i, hi, hget⟩ := List.getElem_of_mem (Tree.mem_commented.2 h)
  obtain ⟨j, hj, hget'⟩ := List.getElem_of_mem (Tree.mem_commented.2 h')
  have hsorted := List.pairwise_iff_getElem.1 (Tree.sorted_commented t)
  rcases lt_trichotomy i j with hij | rfl | hij
  · have hlt := hsorted i j hi hj hij
    rw [hget, hget'] at hlt
    exact absurd hlt (lt_irrefl _)
  · exact (Prod.mk.inj (hget.symm.trans hget')).2
  · have hlt := hsorted j i hj hi hij
    rw [hget, hget'] at hlt
    exact absurd hlt (lt_irrefl _)

lemma Plain.pieces_eq (h : Plain string) : ∃ p, pieces string = [p] ∧ p.text = inside string := by
  obtain ⟨opening, text, closing, hopening, hclosing, hchildren⟩ := h
  refine ⟨⟨string.place ++ [1], .leaf .content text⟩, ?_, ?_⟩
  · have hcontent : isPlain (.leaf .content text) = true := rfl
    simp [pieces, Spot.children, hchildren, listed, hopening, hclosing, hcontent]
  · simp [inside, hchildren, Tree.textOfAll, Spot.text, Tree.textString, Tree.text]

end ConfigKeeper.Elixir

namespace ConfigKeeper.Annotation

open Elixir

variable {ns comment : String} {t : Tree} {mark next imported p : Spot} {check checked : Option Spot}
  {found : List Candidate} {x y : Candidate}

section Decoding

lemma decode?_destination (comment destination : String) : decode? comment destination =
    (decode? comment "").map fun a => { a with destination := trimmed destination } := by
  rw [decode?, decode?]
  split
  · rw [Option.map_map]
    rfl
  · rfl

lemma decode?_isSome (comment destination : String) :
    (decode? comment destination).isSome = (decode? comment "").isSome := by
  rw [decode?_destination, Option.isSome_map]

lemma destination_of_decode? {destination : String} {a : Annotation} (h : decode? comment destination = some a) :
    a.destination = trimmed destination := by
  rw [decode?_destination, Option.map_eq_some_iff] at h
  obtain ⟨b, -, rfl⟩ := h
  rfl

end Decoding

/-- At most one annotation for a comment, with all that is imported and, behind a check, just that checked. -/
structure AsWhole (found : List Candidate) (mark : Spot) (checked : Option Spot) (imported : Spot) : Prop where
  once : ∀ x ∈ found, ∀ y ∈ found, x.comment = mark → y.comment = mark → x = y
  destination : ∀ x ∈ found, x.comment = mark → ∀ a, x.decode? = some a → a.destination = trimmed (inside imported)
  guarded : ∀ x ∈ found, x.comment = mark → ∀ string, checked = some string → inside string = inside imported

/-- At most one piece passes, which is all of the string but white space around it, and a checked string is the
imported one. -/
structure PassesWhole (checked : Option Spot) (imported : Spot) : Prop where
  once : ∀ check p check' p', Passes checked imported check p → Passes checked imported check' p' →
    check = check' ∧ p = p'
  destination : ∀ check p, Passes checked imported check p → trimmed p.text = trimmed (inside imported)
  guarded : ∀ check p, Passes checked imported check p → ∀ string, checked = some string →
    inside string = inside imported

lemma exists_reads (ns : String) (t : Tree) : ∃ found, Reads ns t found := by
  refine ⟨(candidates ns t).filter fun x => x.decode?.isSome, fun x => ?_, ?_, map_some_filterMap _ _⟩
  · rw [List.mem_filter, mem_candidates, and_assoc]
  · refine ((sorted_candidates ns t).filter _).imp fun h heq => ?_
    subst heq
    exact h.irrefl

lemma Reads.mem_iff_passes (h : Reads ns t found) (hdirectly : t.Directly (mark, next)) (hhead : Heads ns mark.text)
    (himports : ImportsString next checked imported) : (⟨mark, check, p⟩ : Candidate) ∈ found ↔
      Passes checked imported check p ∧ (decode? mark.text "").isSome = true := by
  rw [h.mem_iff, Candidate.decode?, decode?_isSome]
  constructor
  · rintro ⟨-, ⟨next', hdirectly', himports'⟩, hdecode⟩
    obtain rfl := hdirectly.next_eq hdirectly'
    exact ⟨himports.imports_iff.1 himports', hdecode⟩
  · rintro ⟨hpasses, hdecode⟩
    exact ⟨hhead, ⟨next, hdirectly, himports.imports_iff.2 hpasses⟩, hdecode⟩

lemma Reads.asWhole_iff (h : Reads ns t found) (hdirectly : t.Directly (mark, next)) (hhead : Heads ns mark.text)
    (himports : ImportsString next checked imported) : AsWhole found mark checked imported ↔
      decode? mark.text "" = none ∨ PassesWhole checked imported := by
  cases hdecode : decode? mark.text "" with
  | none =>
    have hno : ∀ x ∈ found, x.comment ≠ mark := by
      rintro x hx rfl
      have hsome := ((h.mem_iff_passes hdirectly hhead himports).1 hx).2
      rw [hdecode] at hsome
      cases hsome
    refine iff_of_true ⟨fun x hx _ _ hxm => ?_, fun x hx hxm => ?_, fun x hx hxm => ?_⟩ (.inl rfl)
    all_goals exact absurd hxm (hno x hx)
  | some b =>
    have hmem {check : Option Spot} {p : Spot} :
        (⟨mark, check, p⟩ : Candidate) ∈ found ↔ Passes checked imported check p := by
      rw [h.mem_iff_passes hdirectly hhead himports, hdecode]
      exact and_iff_left rfl
    simp only [reduceCtorEq, false_or]
    constructor
    · intro hwhole
      refine ⟨fun check p check' p' hp hp' => ?_, fun check p hp => ?_, fun check p hp => ?_⟩
      · have heq := hwhole.once _ (hmem.2 hp) _ (hmem.2 hp') rfl rfl
        exact ⟨congrArg Candidate.check heq, congrArg Candidate.piece heq⟩
      · obtain ⟨a, ha⟩ := Option.isSome_iff_exists.1 ((h.mem_iff _).1 (hmem.2 hp)).2.2
        rw [← hwhole.destination _ (hmem.2 hp) rfl a ha]
        exact (destination_of_decode? ha).symm
      · exact hwhole.guarded _ (hmem.2 hp) rfl
    · intro hpasses
      refine ⟨?_, ?_, ?_⟩
      · rintro ⟨_, check, p⟩ hx ⟨_, check', p'⟩ hy rfl rfl
        obtain ⟨rfl, rfl⟩ := hpasses.once _ _ _ _ (hmem.1 hx) (hmem.1 hy)
        rfl
      · rintro ⟨_, check, p⟩ hx rfl a ha
        rw [destination_of_decode? ha]
        exact hpasses.destination _ _ (hmem.1 hx)
      · rintro ⟨_, check, p⟩ hx rfl
        exact hpasses.guarded _ _ (hmem.1 hx)

lemma passesWhole_of_plain (himported : Plain imported) (hchecked : ∀ string, checked = some string → Plain string) :
    PassesWhole checked imported := by
  obtain ⟨q, hpieces, hinside⟩ := himported.pieces_eq
  have hpiece {check : Option Spot} {p : Spot} (h : Passes checked imported check p) : p = q := by
    simpa [hpieces] using h.1
  have hcheck {string : Spot} (hstring : checked = some string) {check : Option Spot} {p : Spot}
      (h : Passes checked imported check p) : (pieces string).head? = check ∧ inside string = p.text := by
    subst hstring
    obtain ⟨d, hpieces, hinside⟩ := (hchecked string rfl).pieces_eq
    obtain ⟨c, hc, rfl, hequal⟩ := h.2
    obtain rfl : c = d := by simpa [hpieces] using hc
    exact ⟨by rw [hpieces]; rfl, by rw [← hinside, hequal]⟩
  refine ⟨fun check p check' p' h h' => ⟨?_, (hpiece h).trans (hpiece h').symm⟩, fun check p h => ?_,
    fun check p h string hstring => ?_⟩
  · cases checked with
    | none => exact h.2.trans h'.2.symm
    | some string => exact (hcheck rfl h).1.symm.trans (hcheck rfl h').1
  · rw [hpiece h, hinside]
  · rw [(hcheck hstring h).2, hpiece h, hinside]

/-- An import behind an annotation comment gives at most one annotation, with the whole string and behind the
same checked string, just if the comment is malformed or the string passes as a whole. Strings without escapes
and interpolations do. -/
theorem readTree_asWhole (ns : String) (t : Tree) : ∃ found, Reads ns t found ∧
    ∀ mark next checked imported, t.Directly (mark, next) → Heads ns mark.text →
      ImportsString next checked imported →
        (AsWhole found mark checked imported ↔ decode? mark.text "" = none ∨ PassesWhole checked imported) ∧
          (Plain imported → (∀ string, checked = some string → Plain string) →
            AsWhole found mark checked imported) := by
  obtain ⟨found, hreads⟩ := exists_reads ns t
  refine ⟨found, hreads, fun mark next checked imported hdirectly hhead himports => ?_⟩
  have hiff := hreads.asWhole_iff hdirectly hhead himports
  exact ⟨hiff, fun himported hchecked => hiff.2 (.inr (passesWhole_of_plain himported hchecked))⟩

def annotatedImport (literal : String) : String :=
  "# wukong.mindvalley.dev/config-secrets-location: vault:secret/a#b\nimport_config " ++ literal ++ "\n"

theorem two_of_interpolation : ¬ ∀ literal, (Source.parse (annotatedImport literal)).hasError = false →
    (readTree defaultNamespace (Source.parse (annotatedImport literal)).tree).length ≤ 1 := by
  intro h
  have hclean : (Source.parse (annotatedImport "\"x#\x7by\x7dz\"")).hasError = false := by decide +kernel
  have hdestinations : (readTree defaultNamespace (Source.parse (annotatedImport "\"x#\x7by\x7dz\"")).tree).map
      Annotation.destination = ["x", "z"] := by
    decide +kernel
  have hlength := congrArg List.length hdestinations
  rw [List.length_map] at hlength
  exact absurd (h _ hclean) (by rw [hlength]; decide)

end ConfigKeeper.Annotation
