import ConfigKeeper.Project.Source
import Mathlib.Tactic

/-!
A text that is written as UTF-8 and read back is the same text, up to the line ends that reading
unifies. So what reading a written file can change is told by its carriage returns alone.
-/

namespace ConfigKeeper.Text

lemma toNat_byte {n : Nat} (h : n < 256) : (UInt8.ofNat n).toNat = n := by
  simpa [UInt8.toNat_ofNat'] using h

lemma byte_lt {n : Nat} (h : n < 256) (b : UInt8) : UInt8.ofNat n < b ↔ n < b.toNat := by
  rw [UInt8.lt_iff_toNat_lt, toNat_byte h]

lemma le_byte {n : Nat} (h : n < 256) (b : UInt8) : b ≤ UInt8.ofNat n ↔ b.toNat ≤ n := by
  rw [UInt8.le_iff_toNat_le, toNat_byte h]

lemma byte_eq {n : Nat} (h : n < 256) (b : UInt8) : UInt8.ofNat n = b ↔ n = b.toNat := by
  rw [← UInt8.toNat_inj, toNat_byte h]

lemma isContinuation_iff {b : UInt8} : isContinuation b = true ↔ 0x80 ≤ b.toNat ∧ b.toNat < 0xc0 := by
  simp [isContinuation, UInt8.le_iff_toNat_le, UInt8.lt_iff_toNat_lt]

lemma isContinuation_byte {n : Nat} (h : n < 64) : isContinuation (UInt8.ofNat (n + 128)) = true := by
  rw [isContinuation_iff, toNat_byte (by omega)]
  omega

lemma low_byte {n : Nat} (h : n < 64) : low (UInt8.ofNat (n + 128)) = n := by
  rw [low, toNat_byte (by omega)]
  omega

lemma secondFits_iff {lead b : UInt8} : secondFits lead b = true ↔ (0x80 ≤ b.toNat ∧ b.toNat < 0xc0) ∧
    (lead.toNat = 0xe0 → 0xa0 ≤ b.toNat) ∧ (lead.toNat = 0xed → b.toNat < 0xa0) ∧
    (lead.toNat = 0xf0 → 0x90 ≤ b.toNat) ∧ (lead.toNat = 0xf4 → b.toNat < 0x90) := by
  have heq : ∀ c : UInt8, lead = c ↔ lead.toNat = c.toNat := fun c => UInt8.toNat_inj.symm
  simp only [secondFits, Bool.and_eq_true, isContinuation_iff, Bool.not_eq_true', Bool.and_eq_false_iff,
    beq_eq_false_iff_ne, ne_eq, decide_eq_false_iff_not, heq, UInt8.le_iff_toNat_le, UInt8.lt_iff_toNat_lt,
    UInt8.reduceToNat]
  omega

lemma secondFits_byte {l n : Nat} (hl : l < 256) (hn : n < 64)
    (he0 : l = 0xe0 → 0x20 ≤ n) (hed : l = 0xed → n < 0x20) (hf0 : l = 0xf0 → 0x10 ≤ n)
    (hf4 : l = 0xf4 → n < 0x10) :
    secondFits (UInt8.ofNat l) (UInt8.ofNat (n + 128)) = true := by
  rw [secondFits_iff, toNat_byte hl, toNat_byte (by omega)]
  omega

lemma utf8Step_one {n : Nat} (h : n < 0x80) (rest : List UInt8) :
    utf8Step (UInt8.ofNat n) rest = .char (Char.ofNat n) 1 := by
  have hb : n < 256 := by omega
  unfold utf8Step
  rw [if_pos (by simpa only [byte_lt hb, UInt8.reduceToNat] using h), toNat_byte hb]

lemma utf8Step_two {l x : Nat} (hl : 2 ≤ l) (hl' : l < 32) (hx : x < 64) (rest : List UInt8) :
    utf8Step (UInt8.ofNat (l + 192)) (UInt8.ofNat (x + 128) :: rest) =
      .char (Char.ofNat (l * 64 + x)) 2 := by
  have hb : l + 192 < 256 := by omega
  unfold utf8Step
  simp only [byte_lt hb, le_byte hb, UInt8.reduceToNat, isContinuation_byte hx, low_byte hx, toNat_byte hb,
    Bool.or_eq_true, decide_eq_true_eq, ↓reduceIte]
  rw [if_neg (by omega), if_neg (by omega), if_pos (by omega)]
  congr
  omega

lemma utf8Step_three {l x y : Nat} (hl : l < 16) (hx : x < 64) (hy : y < 64) (h0 : l = 0 → 0x20 ≤ x)
    (hd : l = 13 → x < 0x20) (rest : List UInt8) :
    utf8Step (UInt8.ofNat (l + 224)) (UInt8.ofNat (x + 128) :: UInt8.ofNat (y + 128) :: rest) =
      .char (Char.ofNat ((l * 64 + x) * 64 + y)) 3 := by
  have hb : l + 224 < 256 := by omega
  have hs : secondFits (UInt8.ofNat (l + 224)) (UInt8.ofNat (x + 128)) = true :=
    secondFits_byte hb hx (by omega) (by omega) (by omega) (by omega)
  unfold utf8Step
  simp only [byte_lt hb, le_byte hb, UInt8.reduceToNat, isContinuation_byte hy, low_byte hx, low_byte hy,
    toNat_byte hb, hs, Bool.not_true, Bool.or_eq_true, decide_eq_true_eq, Bool.false_eq_true, ↓reduceIte]
  rw [if_neg (by omega), if_neg (by omega), if_neg (by omega), if_pos (by omega)]
  congr
  omega

lemma utf8Step_four {l x y z : Nat} (hl : l < 5) (hx : x < 64) (hy : y < 64) (hz : z < 64)
    (h0 : l = 0 → 0x10 ≤ x) (h4 : l = 4 → x < 0x10) (rest : List UInt8) :
    utf8Step (UInt8.ofNat (l + 240))
        (UInt8.ofNat (x + 128) :: UInt8.ofNat (y + 128) :: UInt8.ofNat (z + 128) :: rest) =
      .char (Char.ofNat (((l * 64 + x) * 64 + y) * 64 + z)) 4 := by
  have hb : l + 240 < 256 := by omega
  have hs : secondFits (UInt8.ofNat (l + 240)) (UInt8.ofNat (x + 128)) = true :=
    secondFits_byte hb hx (by omega) (by omega) (by omega) (by omega)
  unfold utf8Step
  simp only [byte_lt hb, le_byte hb, UInt8.reduceToNat, isContinuation_byte hy, isContinuation_byte hz,
    low_byte hx, low_byte hy, low_byte hz, toNat_byte hb, hs, Bool.not_true, Bool.or_eq_true,
    decide_eq_true_eq, Bool.false_eq_true, ↓reduceIte]
  rw [if_neg (by omega), if_neg (by omega), if_neg (by omega), if_neg (by omega)]
  congr
  omega

lemma toNat_valid (c : Char) : c.toNat < 0xd800 ∨ 0xdfff < c.toNat ∧ c.toNat < 0x110000 := by
  have h := c.valid
  simp only [UInt32.isValidChar, Nat.isValidChar] at h
  exact h

lemma utf8Step_encode (c : Char) (rest : List UInt8) :
    ∃ lead more, String.utf8EncodeChar c = lead :: more ∧
      utf8Step lead (more ++ rest) = .char c (more.length + 1) := by
  have hv := toNat_valid c
  have hc : ∀ {n}, n = c.toNat → Char.ofNat n = c := by
    rintro n rfl
    exact Char.ofNat_toNat c
  rw [String.utf8EncodeChar]
  simp only [show c.val.toNat = c.toNat from rfl]
  by_cases h1 : c.toNat ≤ 0x7f
  · rw [if_pos h1]
    refine ⟨_, _, rfl, ?_⟩
    have hs := utf8Step_one (n := c.toNat) (by omega) rest
    rwa [hc rfl] at hs
  rw [if_neg h1]
  by_cases h2 : c.toNat ≤ 0x7ff
  · rw [if_pos h2]
    refine ⟨_, _, rfl, ?_⟩
    have hs := utf8Step_two (l := c.toNat / 64 % 32) (x := c.toNat % 64) (by omega) (by omega) (by omega) rest
    rwa [hc (by omega)] at hs
  rw [if_neg h2]
  by_cases h3 : c.toNat ≤ 0xffff
  · rw [if_pos h3]
    refine ⟨_, _, rfl, ?_⟩
    have hs := utf8Step_three (l := c.toNat / 4096 % 16) (x := c.toNat / 64 % 64) (y := c.toNat % 64)
      (by omega) (by omega) (by omega) (by omega) (by omega) rest
    rwa [hc (by omega)] at hs
  · rw [if_neg h3]
    refine ⟨_, _, rfl, ?_⟩
    have hs := utf8Step_four (l := c.toNat / 262144 % 8) (x := c.toNat / 4096 % 64) (y := c.toNat / 64 % 64)
      (z := c.toNat % 64) (by omega) (by omega) (by omega) (by omega) (by omega) (by omega) rest
    rwa [hc (by omega)] at hs

lemma decodeUtf8Aux_skip (pos : Nat) (skipped rest : List UInt8) :
    decodeUtf8Aux pos skipped.length (skipped ++ rest) = decodeUtf8Aux (pos + skipped.length) 0 rest := by
  induction skipped generalizing pos with
  | nil => rfl
  | cons b bs ih =>
    rw [List.length_cons, List.cons_append, decodeUtf8Aux, ih]
    congr 1
    omega

lemma decodeUtf8Aux_encode (pos : Nat) (s : List Char) : decodeUtf8Aux pos 0 (encodeUtf8 s) = .ok s := by
  induction s generalizing pos with
  | nil => rfl
  | cons c r ih =>
    obtain ⟨lead, more, he, hs⟩ := utf8Step_encode c (encodeUtf8 r)
    have hr : encodeUtf8 (c :: r) = lead :: (more ++ encodeUtf8 r) := by
      rw [encodeUtf8, List.flatMap_cons, he]
      rfl
    rw [hr, decodeUtf8Aux, hs]
    simp only [Nat.add_sub_cancel, decodeUtf8Aux_skip, ih]
    rfl

theorem decodeUtf8_encodeUtf8 (s : List Char) : decodeUtf8 (encodeUtf8 s) = .ok s :=
  decodeUtf8Aux_encode 0 s

lemma encodeUtf8_injective : Function.Injective encodeUtf8 := by
  intro s s' h
  have hdecode := congrArg decodeUtf8 h
  rw [decodeUtf8_encodeUtf8, decodeUtf8_encodeUtf8] at hdecode
  exact Except.ok.inj hdecode

lemma val_ofNat {n : Nat} (h : n < 0xd800 ∨ 0xdfff < n ∧ n < 0x110000) : (Char.ofNat n).val.toNat = n := by
  rw [Char.ofNat, dif_pos (show n.isValidChar from h)]
  rfl

lemma encode_one {a : UInt8} (h : a.toNat < 0x80) : String.utf8EncodeChar (Char.ofNat a.toNat) = [a] := by
  rw [String.utf8EncodeChar, val_ofNat (by omega), if_pos (by omega), UInt8.ofNat_toNat]

lemma encode_two {a b : UInt8} (ha : 0xc2 ≤ a.toNat) (ha' : a.toNat < 0xe0) (hb : isContinuation b = true) :
    String.utf8EncodeChar (Char.ofNat (a.toNat % 32 * 64 + low b)) = [a, b] := by
  rw [isContinuation_iff] at hb
  rw [low, String.utf8EncodeChar, val_ofNat (by omega), if_neg (by omega), if_pos (by omega)]
  congr
  · exact (byte_eq (by omega) a).2 (by omega)
  · exact (byte_eq (by omega) b).2 (by omega)

lemma encode_three {a b c : UInt8} (ha : 0xe0 ≤ a.toNat) (ha' : a.toNat < 0xf0) (hb : secondFits a b = true)
    (hc : isContinuation c = true) :
    String.utf8EncodeChar (Char.ofNat ((a.toNat % 16 * 64 + low b) * 64 + low c)) = [a, b, c] := by
  rw [secondFits_iff] at hb
  rw [isContinuation_iff] at hc
  rw [low, low, String.utf8EncodeChar, val_ofNat (by omega), if_neg (by omega), if_neg (by omega), if_pos (by omega)]
  congr
  · exact (byte_eq (by omega) a).2 (by omega)
  · exact (byte_eq (by omega) b).2 (by omega)
  · exact (byte_eq (by omega) c).2 (by omega)

lemma encode_four {a b c d : UInt8} (ha : 0xf0 ≤ a.toNat) (ha' : a.toNat < 0xf5) (hb : secondFits a b = true)
    (hc : isContinuation c = true) (hd : isContinuation d = true) :
    String.utf8EncodeChar (Char.ofNat (((a.toNat % 8 * 64 + low b) * 64 + low c) * 64 + low d)) = [a, b, c, d] := by
  rw [secondFits_iff] at hb
  rw [isContinuation_iff] at hc hd
  rw [low, low, low, String.utf8EncodeChar, val_ofNat (by omega), if_neg (by omega), if_neg (by omega),
    if_neg (by omega)]
  congr
  · exact (byte_eq (by omega) a).2 (by omega)
  · exact (byte_eq (by omega) b).2 (by omega)
  · exact (byte_eq (by omega) c).2 (by omega)
  · exact (byte_eq (by omega) d).2 (by omega)

lemma encode_of_utf8Step {lead : UInt8} {rest : List UInt8} {c : Char} {size : Nat} :
    utf8Step lead rest = .char c size →
      ∃ more tail, rest = more ++ tail ∧ size = more.length + 1 ∧ String.utf8EncodeChar c = lead :: more := by
  have hlt : ∀ a b : UInt8, a < b ↔ a.toNat < b.toNat := fun _ _ => UInt8.lt_iff_toNat_lt
  have hle : ∀ a b : UInt8, a ≤ b ↔ a.toNat ≤ b.toNat := fun _ _ => UInt8.le_iff_toNat_le
  -- of the leaves of the decoder four give a character, one for each size
  fun_cases utf8Step lead rest with
  | case1 _ h₁ =>
    rintro ⟨⟩
    exact ⟨[], rest, rfl, rfl, encode_one ((hlt _ _).1 h₁)⟩
  | case4 h₁ h₂ h₃ b tail hb =>
    rintro ⟨⟩
    simp only [hlt, hle, Bool.or_eq_true, decide_eq_true_eq, UInt8.reduceToNat] at h₁ h₂ h₃
    exact ⟨[b], tail, rfl, rfl, encode_two (by omega) h₃ hb⟩
  | case9 h₁ h₂ h₃ h₄ b hb c tail hc =>
    rintro ⟨⟩
    simp only [hlt, UInt8.reduceToNat, Bool.not_eq_true', Bool.not_eq_false] at h₃ h₄ hb
    exact ⟨[b, c], tail, rfl, rfl, encode_three (by omega) h₄ hb hc⟩
  | case16 h₁ h₂ h₃ h₄ b hb c hc d tail hd =>
    rintro ⟨⟩
    simp only [hlt, hle, Bool.or_eq_true, decide_eq_true_eq, UInt8.reduceToNat, Bool.not_eq_true',
      Bool.not_eq_false] at h₂ h₄ hb hc
    exact ⟨[b, c, d], tail, rfl, rfl, encode_four (by omega) (by omega) hb hc hd⟩
  | _ => rintro ⟨⟩

lemma encode_of_decodeUtf8Aux {pos : Nat} {bytes : List UInt8} {s : List Char}
    (h : decodeUtf8Aux pos 0 bytes = .ok s) : encodeUtf8 s = bytes := by
  induction hn : bytes.length using Nat.strong_induction_on generalizing pos bytes s with
  | _ n ih =>
    cases bytes with
    | nil =>
      cases h
      rfl
    | cons lead rest =>
      rw [decodeUtf8Aux] at h
      cases hstep : utf8Step lead rest with
      | fault size reason =>
        rw [hstep] at h
        cases h
      | char c size =>
        obtain ⟨more, tail, rfl, rfl, hc⟩ := encode_of_utf8Step hstep
        rw [hstep] at h
        simp only [Nat.add_sub_cancel, decodeUtf8Aux_skip] at h
        cases htail : decodeUtf8Aux (pos + 1 + more.length) 0 tail with
        | error f =>
          rw [htail] at h
          cases h
        | ok rest =>
          rw [htail] at h
          cases h
          have hrest := ih tail.length (by simp [← hn]) htail rfl
          rw [encodeUtf8] at hrest ⊢
          rw [List.flatMap_cons, hc, hrest]
          rfl

theorem encode_of_decodeUtf8 {bytes : List UInt8} {s : List Char} (h : decodeUtf8 bytes = .ok s) :
    encodeUtf8 s = bytes := encode_of_decodeUtf8Aux h

lemma unifyNewlines_eq_self {s : List Char} (h : '\r' ∉ s) : unifyNewlines s = s := by
  fun_induction unifyNewlines s with
  | case1 => rfl
  | case2 r ih => simp at h
  | case3 c r _ ih =>
    rw [List.mem_cons, not_or] at h
    rw [ih h.2, if_neg (Ne.symm h.1)]

lemma not_mem_unifyNewlines (s : List Char) : '\r' ∉ unifyNewlines s := by
  fun_induction unifyNewlines s with
  | case1 => simp
  | case2 r ih => simpa using ih
  | case3 c r _ ih =>
    rw [List.mem_cons, not_or]
    exact ⟨by split <;> simp_all [eq_comm], ih⟩

theorem unifyNewlines_eq_iff (s : List Char) : unifyNewlines s = s ↔ '\r' ∉ s :=
  ⟨fun h => h ▸ not_mem_unifyNewlines s, unifyNewlines_eq_self⟩

end ConfigKeeper.Text

namespace ConfigKeeper

theorem textOfBytes_encodeUtf8 (s : List Char) :
    textOfBytes (Text.encodeUtf8 s) = .ok (String.ofList (Text.unifyNewlines s)) := by
  rw [textOfBytes, Text.decodeUtf8_encodeUtf8]
  rfl

lemma encode_of_textOfBytes {bytes : List UInt8} {text : String} (h : textOfBytes bytes = .ok text) :
    ∃ s, bytes = Text.encodeUtf8 s ∧ text = String.ofList (Text.unifyNewlines s) := by
  rw [textOfBytes] at h
  cases hs : Text.decodeUtf8 bytes with
  | error f =>
    rw [hs] at h
    cases h
  | ok s =>
    rw [hs] at h
    exact ⟨s, (Text.encode_of_decodeUtf8 hs).symm, (Except.ok.inj h).symm⟩

end ConfigKeeper
