import ConfigKeeper.Proofs.Lint.Clean
import ConfigKeeper.Proofs.Lint.Found
import ConfigKeeper.Proofs.Text.Boundary

/-!
Every node of a syntax tree stands in the source where it says it does. So its points lead back to its
bytes, each diagnostic is on a span between characters, and the checks on the way to a diagnostic never fail.
-/

namespace ConfigKeeper.Elixir

open Text

namespace Tree

variable {n : Located}

def Located.In (n : Located) (s : List Char) (offset : Nat) : Prop :=
  ∃ front back, s = front ++ n.tree.text ++ back ∧ n.offset = offset + front.length

lemma Located.In.append {s : List Char} {offset : Nat} (h : n.In s offset) (back : List Char) :
    n.In (s ++ back) offset := by
  obtain ⟨front, behind, rfl, hn⟩ := h
  exact ⟨front, behind ++ back, by simp only [List.append_assoc], hn⟩

lemma Located.In.prepend {s : List Char} {offset : Nat} {front : List Char}
    (h : n.In s (offset + front.length)) : n.In (front ++ s) offset := by
  obtain ⟨before, back, rfl, hn⟩ := h
  refine ⟨front ++ before, back, by simp only [List.append_assoc], ?_⟩
  rw [hn, List.length_append, Nat.add_assoc]

mutual

theorem in_of_mem_locate {offset : Nat} {parent : Option Kind} :
    ∀ t : Tree, n ∈ locate offset parent t → n.In t.text offset
  | .leaf k s, h => by
    rw [locate, List.mem_singleton] at h
    exact h ▸ ⟨[], [], by simp, rfl⟩
  | .node k cs, h => by
    rw [locate, List.mem_cons] at h
    cases h with
    | inl h => exact h ▸ ⟨[], [], by simp, rfl⟩
    | inr h => exact in_of_mem_locateAll cs h

theorem in_of_mem_locateAll {offset : Nat} {parent : Kind} :
    ∀ ts : List Tree, n ∈ locateAll offset parent ts → n.In (textOfAll ts) offset
  | [], h => by simp [locateAll] at h
  | t :: ts, h => by
    rw [locateAll, List.mem_append] at h
    rw [textOfAll]
    cases h with
    | inl h => exact (in_of_mem_locate t h).append (textOfAll ts)
    | inr h => exact (in_of_mem_locateAll ts h).prepend

end

end Tree

namespace Source

variable {s : Source} {n : Tree.Located} {front back : List Char}

def Cut (s : Source) (n : Tree.Located) (front back : List Char) : Prop :=
  s.text.toList = front ++ n.tree.text ++ back ∧ n.offset = front.length

lemma exists_cut (h : n ∈ s.tree.nodes) : ∃ front back, s.Cut n front back := by
  obtain ⟨front, back, hs, hn⟩ := Tree.in_of_mem_locate s.tree h
  exact ⟨front, back, s.spells ▸ hs, by rw [hn, Nat.zero_add]⟩

lemma offsetOfPoint_pointAt (h : s.text.toList = front ++ back) :
    offsetOfPoint s.bytes (s.pointAt front.length) = .ok (byteLength front) := by
  rw [bytes, pointAt, h, List.take_left, encodeUtf8_append, offsetOfPoint_pointAfter, encodeUtf8_length]

lemma Cut.nodeSpan (h : s.Cut n front back) :
    s.nodeSpan n = .ok (byteLength front, byteLength (front ++ n.tree.text)) := by
  obtain ⟨hs, hn⟩ := h
  have hstart := offsetOfPoint_pointAt (hs.trans (List.append_assoc _ _ _))
  have hstop := offsetOfPoint_pointAt hs
  rw [List.length_append] at hstop
  rw [Source.nodeSpan, hn, hstart, hstop]
  rfl

lemma Cut.bytes_between (h : s.Cut n front back) :
    (s.bytes.take (byteLength (front ++ n.tree.text))).drop (byteLength front) = encodeUtf8 n.tree.text := by
  rw [bytes, h.1, encodeUtf8_append, ← encodeUtf8_length (front ++ _), List.take_left, encodeUtf8_append,
    ← encodeUtf8_length, List.drop_left]

lemma Cut.nodeText (h : s.Cut n front back) : s.nodeText n = .ok n.tree.textString := by
  rw [Source.nodeText, h.nodeSpan]
  change (decodeUtf8 ((s.bytes.take _).drop _)).mapError Lint.MarkFault.text >>= _ = _
  rw [h.bytes_between, decodeUtf8_encodeUtf8]
  rfl

end Source

end ConfigKeeper.Elixir

namespace ConfigKeeper.Lint

open Text Elixir

variable {g : Registry} {r : Rule} {s : Source} {n : Tree.Located} {text file : String} {front back : List Char}

lemma diagnose_of_cut (h : s.Cut n front back) :
    r.diagnose file s.text.toList n = ⟨r.name, file, front, n.tree.text, back, r.explain, r.advice⟩ := by
  obtain ⟨hs, hn⟩ := h
  have hlength : front.length + n.tree.text.length = (front ++ n.tree.text).length := List.length_append.symm
  rw [Rule.diagnose, Diagnostic.ofPositions, hs, hn, hlength, List.take_left, List.drop_left, List.drop_left,
    List.append_assoc, List.take_left]

lemma positions_of_cut (h : s.Cut n front back) :
    Diagnostic.positions s.text.toList (byteLength front) (byteLength (front ++ n.tree.text)) =
      .ok (front.length, (front ++ n.tree.text).length) := by
  have hle : byteLength front ≤ byteLength (front ++ n.tree.text) := by
    rw [byteLength_append]
    exact Nat.le_add_right _ _
  have hsize : byteLength (front ++ n.tree.text) ≤ byteLength s.text.toList := by
    rw [h.1, byteLength_append (front ++ n.tree.text)]
    exact Nat.le_add_right _ _
  have hstart : charIndex? s.text.toList (byteLength front) = some front.length := by
    rw [h.1, List.append_assoc, charIndex?_append]
  have hstop : charIndex? s.text.toList (byteLength (front ++ n.tree.text)) = some (front ++ n.tree.text).length := by
    rw [h.1, charIndex?_append]
  rw [Diagnostic.positions, if_pos (by simp [hle, hsize])]
  simp only [Int.toNat_natCast, hstart, hstop]

lemma mark_eq (h : n ∈ s.tree.nodes) : r.mark file s n = .ok (r.diagnose file s.text.toList n) := by
  obtain ⟨front, back, hcut⟩ := Source.exists_cut h
  rw [Rule.mark, hcut.nodeSpan]
  change (Diagnostic.ofSpan r.name file r.explain r.advice s.text.toList _ _).mapError MarkFault.span = _
  rw [Diagnostic.ofSpan, positions_of_cut hcut, Rule.diagnose, hcut.2, List.length_append]
  rfl

lemma markAll_eq (r : Rule) (s : Source) (file : String) : r.markAll s file = .ok (r.evaluate s file) := by
  refine mapM_of_map ?_
  rw [Rule.evaluate, List.map_map]
  exact List.map_congr_left fun n hn => mark_eq (Rule.flagged_of_mem_found hn).1

lemma markSource_eq (g : Registry) (text file : String) :
    markSource g text file = .ok (lintSource g text file).value := by
  rw [markSource, value_lintSource]
  split
  · next h =>
    rw [h]
    rfl
  · have hall : (g.rulesFor file).mapM (fun r => r.markAll (Source.parse text) file) =
        .ok ((g.rulesFor file).map fun r => r.evaluate (Source.parse text) file) := by
      refine mapM_of_map ?_
      rw [List.map_map]
      exact List.map_congr_left fun r _ => markAll_eq r (Source.parse text) file
    rw [hall, List.flatMap_def]
    rfl

/-- What a reader of a diagnostic relies on: it belongs to the source and the file, it comes from a rule for
the file and a node of the source, and its span is cut between characters. -/
structure WellFormed (g : Registry) (text file : String) (d : Diagnostic) : Prop where
  ofText : d.source = text.toList
  ofFile : d.file = file
  reported : ∃ r ∈ g.rules, r.name = d.rule ∧ r.appliesTo file = true ∧
    ∃ n ∈ (Source.parse text).tree.nodes, Rule.Check.flags r.check n = true ∧
      (Source.parse text).nodeSpan n = .ok d.span ∧
      (Source.parse text).nodeText n = .ok d.excerpt
  inBounds : d.span.1 ≤ d.span.2 ∧ d.span.2 ≤ (encodeUtf8 text.toList).length
  boundaries : ∀ i ∈ [d.span.1, d.span.2], ∀ b, (encodeUtf8 text.toList)[i]? = some b → isContinuation b = false
  excerpt : d.excerpt = String.ofList (slice text.toList d.charSpan.1 d.charSpan.2)

lemma wellFormed_diagnose (hr : r ∈ g.rulesFor file) (hn : n ∈ (Source.parse text).tree.nodes)
    (hflags : Rule.Check.flags r.check n = true) : WellFormed g text file (r.diagnose file text.toList n) := by
  obtain ⟨front, back, hcut⟩ := Source.exists_cut hn
  have hs : text.toList = front ++ n.tree.text ++ back := hcut.1
  have hd : r.diagnose file text.toList n = ⟨r.name, file, front, n.tree.text, back, r.explain, r.advice⟩ :=
    diagnose_of_cut hcut
  rw [Registry.rulesFor, List.mem_filter] at hr
  rw [hd]
  exact {
    ofText := hs.symm
    ofFile := rfl
    reported := ⟨r, hr.1, rfl, hr.2, n, hn, hflags, hcut.nodeSpan, hcut.nodeText⟩
    inBounds := by
      simp only [Diagnostic.span, encodeUtf8_length, hs, byteLength_append]
      omega
    boundaries := by
      intro i hi b hb
      rw [List.mem_pair] at hi
      rw [hs] at hb
      obtain rfl | rfl := hi
      · rw [List.append_assoc] at hb
        exact isContinuation_of_cut hb
      · exact isContinuation_of_cut hb
    excerpt := by
      rw [Diagnostic.excerpt, Diagnostic.charSpan, hs, slice_cut] }

/-- Linting never fails: the text of each node can be read, each diagnostic passes its checks, and it is
well formed. -/
theorem lintSource_wellFormed (g : Registry) (text file : String) :
    markSource g text file = .ok (lintSource g text file).value ∧
      (∀ n ∈ (Source.parse text).tree.nodes, (Source.parse text).nodeText n = .ok n.tree.textString) ∧
      ∀ d ∈ (lintSource g text file).value, WellFormed g text file d := by
  refine ⟨markSource_eq g text file, ?_, ?_⟩
  · intro n hn
    obtain ⟨front, back, hcut⟩ := Source.exists_cut hn
    exact hcut.nodeText
  · intro d hd
    rw [value_lintSource, List.mem_flatMap] at hd
    obtain ⟨r, hr, hd⟩ := hd
    rw [Rule.evaluate, List.mem_map] at hd
    obtain ⟨n, hn, rfl⟩ := hd
    obtain ⟨hnode, hflags⟩ := Rule.flagged_of_mem_found hn
    exact wellFormed_diagnose hr hnode hflags

end ConfigKeeper.Lint
