import ConfigKeeper.Json.Reader
import ConfigKeeper.Json.Writer
import Mathlib.Tactic

/-!
Strings are read as they were written: each character is read back from its escape, whatever stands
behind it.
-/

namespace ConfigKeeper.Json

open Text

lemma hexValue?_hexDigit_of_lt {n : Nat} (h : n < 16) : hexValue? (hexDigit n) = some n :=
  hexValue?_hexDigit ⟨n, h⟩

lemma hexFixed_four (n : Nat) : hexFixed 4 n =
    [hexDigit (n / 4096 % 16), hexDigit (n / 256 % 16), hexDigit (n / 16 % 16), hexDigit (n % 16)] := by
  simp only [hexFixed, List.nil_append, List.cons_append, Nat.div_div_eq_div_mul]

lemma codeUnit?_hexFixed {n : Nat} (h : n < 0x10000) (r : List Char) :
    codeUnit? (hexFixed 4 n ++ r) = some (n, r) := by
  have hn : ((n / 4096 % 16 * 16 + n / 256 % 16) * 16 + n / 16 % 16) * 16 + n % 16 = n := by omega
  rw [hexFixed_four]
  simp only [List.cons_append, List.nil_append, codeUnit?]
  rw [hexValue?_hexDigit_of_lt (Nat.mod_lt _ (by omega)), hexValue?_hexDigit_of_lt (Nat.mod_lt _ (by omega)),
    hexValue?_hexDigit_of_lt (Nat.mod_lt _ (by omega)), hexValue?_hexDigit_of_lt (Nat.mod_lt _ (by omega))]
  simp only [hn]

lemma toNat_not_surrogate (c : Char) : c.toNat < 0xd800 ∨ 0xdfff < c.toNat ∧ c.toNat < 0x110000 := c.valid

lemma charOfUnit_toNat (c : Char) : charOfUnit c.toNat = c := by
  have hc := toNat_not_surrogate c
  have hs : (0xd800 ≤ c.toNat && c.toNat < 0xe000) = false := by
    rw [Bool.and_eq_false_iff, decide_eq_false_iff_not, decide_eq_false_iff_not]
    omega
  rw [charOfUnit, if_neg (by simp [hs]), Char.ofNat_toNat]

lemma unicodeEscape_unit {c : Char} (h : c.toNat < 0x10000) (pos : Nat) {r : List Char} (hr : r ≠ []) :
    unicodeEscape pos (hexFixed 4 c.toNat ++ r) = .ok (c, 4) := by
  have hc := toNat_not_surrogate c
  have hlen : ¬ (hexFixed 4 c.toNat ++ r).length < 5 := by
    have hpos := List.length_pos_iff.2 hr
    rw [List.length_append, hexFixed_length]
    omega
  have hhigh : isHighSurrogate c.toNat = false := by
    rw [isHighSurrogate, Bool.and_eq_false_iff, decide_eq_false_iff_not, decide_eq_false_iff_not]
    omega
  rw [unicodeEscape, if_neg hlen, codeUnit?_hexFixed h]
  simp only [hhigh, Bool.false_and, Bool.false_eq_true, if_false, charOfUnit_toNat]
  split <;> rfl

lemma unicodeEscape_pair {c : Char} (h : 0x10000 ≤ c.toNat) (pos : Nat) {r : List Char} (hr : r ≠ []) :
    unicodeEscape pos (hexFixed 4 (0xd800 + (c.toNat - 0x10000) / 0x400) ++ '\\' :: 'u' ::
      (hexFixed 4 (0xdc00 + (c.toNat - 0x10000) % 0x400) ++ r)) = .ok (c, 10) := by
  have hc := toNat_not_surrogate c
  have hpos := List.length_pos_iff.2 hr
  generalize hi : 0xd800 + (c.toNat - 0x10000) / 0x400 = high
  generalize lo : 0xdc00 + (c.toNat - 0x10000) % 0x400 = low
  have hlen : ¬ (hexFixed 4 high ++ '\\' :: 'u' :: (hexFixed 4 low ++ r)).length < 5 := by
    simp only [List.length_append, hexFixed_length, List.length_cons]
    omega
  have hmore : 5 ≤ (hexFixed 4 low ++ r).length := by
    rw [List.length_append, hexFixed_length]
    omega
  have hhigh : isHighSurrogate high = true := by
    rw [isHighSurrogate, Bool.and_eq_true, decide_eq_true_iff, decide_eq_true_iff]
    omega
  have hlow : isLowSurrogate low = true := by
    rw [isLowSurrogate, Bool.and_eq_true, decide_eq_true_iff, decide_eq_true_iff]
    omega
  have hchar : charOfPair high low = c := by
    rw [charOfPair, show 0x10000 + (high - 0xd800) * 0x400 + (low - 0xdc00) = c.toNat by omega,
      Char.ofNat_toNat]
  rw [unicodeEscape, if_neg hlen, codeUnit?_hexFixed (by omega)]
  simp only [hhigh, hmore, decide_true, Bool.and_self, if_true, codeUnit?_hexFixed (show low < 0x10000 by omega),
    hlow, hchar]

lemma stringBody_skip (start pos : Nat) (acc xs r : List Char) :
    stringBody start pos xs.length acc (xs ++ r) = stringBody start (pos + xs.length) 0 acc r := by
  induction xs generalizing pos with
  | nil => rfl
  | cons x xs ih =>
    rw [List.length_cons, List.cons_append, stringBody, ih]
    congr 1
    omega

lemma stringBody_letter {e c : Char} (he : escaped? e = some c) (hu : e ≠ 'u') (start pos : Nat)
    (acc r : List Char) :
    stringBody start pos 0 acc ('\\' :: e :: r) = stringBody start (pos + 2) 0 (c :: acc) r := by
  rw [stringBody, if_neg (by decide), if_pos rfl]
  simp only [if_neg hu, he]
  exact stringBody_skip start (pos + 1) (c :: acc) [e] r

lemma stringBody_plain {c : Char} (hq : c ≠ '"') (hb : c ≠ '\\') (hc : ¬ c.toNat < 0x20) (start pos : Nat)
    (acc r : List Char) : stringBody start pos 0 acc (c :: r) = stringBody start (pos + 1) 0 (c :: acc) r := by
  rw [stringBody.eq_def]
  simp only [if_neg hq, if_neg hb, if_neg hc]

lemma stringBody_unicode {c : Char} {pos : Nat} {xs r : List Char}
    (h : unicodeEscape (pos + 1) (xs ++ r) = .ok (c, xs.length)) (start : Nat) (acc : List Char) :
    stringBody start pos 0 acc ('\\' :: 'u' :: xs ++ r) =
      stringBody start (pos + (xs.length + 2)) 0 (c :: acc) r := by
  rw [List.cons_append, List.cons_append, stringBody, if_neg (by decide), if_pos rfl]
  simp only [if_true, h]
  rw [← List.cons_append, Nat.add_comm 1 xs.length]
  have hs := stringBody_skip start (pos + 1) (c :: acc) ('u' :: xs) r
  rw [List.length_cons] at hs
  rw [hs]
  congr 1
  omega

lemma length_unitEscape (n : Nat) : (unitEscape n).length = 6 := by
  rw [unitEscape, List.length_cons, List.length_cons, hexFixed_length]

lemma stringBody_pair {c : Char} (h : 0x10000 ≤ c.toNat) (start pos : Nat) (acc : List Char) {r : List Char}
    (hr : r ≠ []) :
    stringBody start pos 0 acc (unitEscape (0xd800 + (c.toNat - 0x10000) / 0x400) ++
        unitEscape (0xdc00 + (c.toNat - 0x10000) % 0x400) ++ r) =
      stringBody start (pos + 12) 0 (c :: acc) r := by
  have hp := unicodeEscape_pair h (pos + 1) hr
  generalize 0xd800 + (c.toNat - 0x10000) / 0x400 = high at hp ⊢
  generalize 0xdc00 + (c.toNat - 0x10000) % 0x400 = low at hp ⊢
  have hlen : (hexFixed 4 high ++ unitEscape low).length = 10 := by
    rw [List.length_append, hexFixed_length, length_unitEscape]
  have hpair : unicodeEscape (pos + 1) (hexFixed 4 high ++ unitEscape low ++ r) =
      .ok (c, (hexFixed 4 high ++ unitEscape low).length) := by
    rw [hlen, List.append_assoc, ← hp]
    rfl
  have hread := stringBody_unicode hpair start acc
  rw [hlen] at hread
  exact hread

lemma escape_cases (c : Char) : (∃ e, escaped? e = some c ∧ e ≠ 'u' ∧ escape c = ['\\', e]) ∨
    (c ≠ '"' ∧ c ≠ '\\' ∧ 0x20 ≤ c.toNat ∧ escape c = [c]) ∨
    (c.toNat < 0x10000 ∧ escape c = unitEscape c.toNat) ∨
    (0x10000 ≤ c.toNat ∧ escape c =
      unitEscape (0xd800 + (c.toNat - 0x10000) / 0x400) ++ unitEscape (0xdc00 + (c.toNat - 0x10000) % 0x400)) := by
  rw [escape]
  split
  · next hc => exact .inl ⟨'"', by rw [hc]; rfl, by decide, rfl⟩
  next hq =>
  split
  · next hc => exact .inl ⟨'\\', by rw [hc]; rfl, by decide, rfl⟩
  next hb =>
  split
  · next hc => exact .inl ⟨'n', by rw [hc]; rfl, by decide, rfl⟩
  split
  · next hc => exact .inl ⟨'r', by rw [hc]; rfl, by decide, rfl⟩
  split
  · next hc => exact .inl ⟨'t', by rw [hc]; rfl, by decide, rfl⟩
  split
  · next hc => exact .inl ⟨'b', by rw [hc]; rfl, by decide, rfl⟩
  split
  · next hc => exact .inl ⟨'f', by rw [hc]; rfl, by decide, rfl⟩
  split
  · next hp =>
    rw [Bool.and_eq_true, decide_eq_true_iff, decide_eq_true_iff] at hp
    exact .inr (.inl ⟨hq, hb, hp.1, rfl⟩)
  split
  · next hs => exact .inr (.inr (.inl ⟨hs, rfl⟩))
  · next hs => exact .inr (.inr (.inr ⟨Nat.le_of_not_lt hs, rfl⟩))

lemma stringBody_escape (c : Char) (start pos : Nat) (acc : List Char) {r : List Char} (hr : r ≠ []) :
    stringBody start pos 0 acc (escape c ++ r) =
      stringBody start (pos + (escape c).length) 0 (c :: acc) r := by
  obtain ⟨e, he, hu, hc⟩ | ⟨hq, hb, hp, hc⟩ | ⟨hs, hc⟩ | ⟨hs, hc⟩ := escape_cases c <;> rw [hc]
  · exact stringBody_letter he hu start pos acc r
  · exact stringBody_plain hq hb (Nat.not_lt.2 hp) start pos acc r
  · rw [unitEscape]
    exact stringBody_unicode (by rw [hexFixed_length]; exact unicodeEscape_unit hs (pos + 1) hr) start acc
  · rw [List.length_append, length_unitEscape, length_unitEscape]
    exact stringBody_pair hs start pos acc hr

lemma stringBody_flatMap (s : List Char) (start pos : Nat) (acc r : List Char) :
    stringBody start pos 0 acc (s.flatMap escape ++ '"' :: r) =
      .ok (acc.reverse ++ s, ⟨pos + (s.flatMap escape).length + 1, r⟩) := by
  induction s generalizing pos acc with
  | nil =>
    rw [List.flatMap_nil, List.nil_append, stringBody.eq_def, List.append_nil]
    rfl
  | cons c s ih =>
    rw [List.flatMap_cons, List.append_assoc, stringBody_escape c start pos acc (by simp), ih,
      List.reverse_cons, List.append_assoc, List.length_append, Nat.add_assoc pos]
    rfl

end ConfigKeeper.Json
