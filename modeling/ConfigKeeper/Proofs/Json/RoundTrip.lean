import ConfigKeeper.Json.Bytes
import ConfigKeeper.Proofs.Json.Members
import ConfigKeeper.Proofs.Json.Strings
import ConfigKeeper.Proofs.Text.Utf8

namespace ConfigKeeper.Json

open Text

structure ReadBack (v : Json) : Prop where
  solid : ∃ c r, v.render.toList = c :: r ∧ isSpace c = false
  read : ∀ fuel pos r, v.render.toList.length ≤ fuel →
    value fuel ⟨pos, v.render.toList ++ r⟩ = .ok (v, ⟨pos + v.render.toList.length, r⟩)

def memberText (e : String × Json) : String := stringText e.1 ++ ": " ++ e.2.render

lemma renderMembers_eq_map (ms : List (String × Json)) : renderMembers ms = ms.map memberText := by
  induction ms with
  | nil => rfl
  | cons e es ih => rw [renderMembers, ih]; rfl

lemma toList_stringText (s : String) : (stringText s).toList = '"' :: (s.toList.flatMap escape ++ ['"']) :=
  String.toList_ofList

lemma toList_memberText (e : String × Json) : (memberText e).toList =
    '"' :: (e.1.toList.flatMap escape ++ '"' :: ':' :: ' ' :: e.2.render.toList) := by
  rw [memberText, String.toList_append, String.toList_append, toList_stringText]
  simp

lemma skipSpace_cons {x : Char} (h : isSpace x = false) (pos : Nat) (r : List Char) :
    skipSpace ⟨pos, x :: r⟩ = ⟨pos, x :: r⟩ := by
  rw [skipSpace, Cursor.dropWhile, List.takeWhile_cons, h]
  rfl

lemma skipSpace_space {x : Char} (h : isSpace x = false) (pos : Nat) (r : List Char) :
    skipSpace ⟨pos, ' ' :: x :: r⟩ = ⟨pos + 1, x :: r⟩ := by
  rw [skipSpace, Cursor.dropWhile, List.takeWhile_cons, if_pos (by decide), List.takeWhile_cons, h]
  rfl

lemma readBack_string (s : String) : ReadBack (.string s) := by
  have ht : (Json.string s).render.toList = '"' :: (s.toList.flatMap escape ++ ['"']) := by
    rw [render, toList_stringText]
  constructor
  · exact ⟨_, _, ht, by decide⟩
  · intro fuel pos r hf
    rw [ht] at hf ⊢
    obtain ⟨fuel, rfl⟩ := Nat.exists_eq_add_one_of_ne_zero
      (Nat.ne_of_gt (Nat.lt_of_lt_of_le (Nat.succ_pos _) hf))
    rw [List.cons_append, List.append_assoc, List.singleton_append, value]
    simp only [stringBody_flatMap]
    simp [bind, Except.bind]
    omega

def afterMember (fuel : Nat) (done : List (String × Json)) (c : Cursor) :
    Except Fault (List (String × Json) × Cursor) :=
  match c.rest with
  | '}' :: _ => .ok (done.reverse, c.drop 1)
  | ',' :: _ => members fuel done (skipSpace (c.drop 1))
  | _ => fail c .comma

lemma members_member {e : String × Json} (h : ReadBack e.2) {fuel : Nat}
    (hf : (memberText e).toList.length ≤ fuel) (done : List (String × Json)) (pos : Nat) {x : Char}
    (hx : isSpace x = false) (r : List Char) :
    members (fuel + 1) done ⟨pos, (memberText e).toList ++ x :: r⟩ =
      afterMember fuel (e :: done) ⟨pos + (memberText e).toList.length, x :: r⟩ := by
  obtain ⟨c, q, hc, hs⟩ := h.solid
  have hlen : (memberText e).toList.length =
      (e.1.toList.flatMap escape).length + 4 + e.2.render.toList.length := by
    rw [toList_memberText]
    simp only [List.length_cons, List.length_append]
    omega
  have hread := h.read fuel (pos + ((e.1.toList.flatMap escape).length + 4)) (x :: r) (by omega)
  rw [hlen, ← Nat.add_assoc, toList_memberText, List.cons_append, List.append_assoc, members]
  rw [hc, List.cons_append, List.length_cons] at hread
  simp only [List.cons_append, stringBody_flatMap, bind, Except.bind, List.reverse_nil, List.nil_append,
    skipSpace_cons (show isSpace ':' = false by decide), Cursor.drop, List.drop_one, List.tail_cons, hc,
    skipSpace_space hs]
  rw [show pos + 1 + (e.1.toList.flatMap escape).length + 1 + 1 + 1 =
    pos + ((e.1.toList.flatMap escape).length + 4) by omega, hread]
  simp only [skipSpace_cons hx, String.ofList_toList, List.length_cons]
  rfl

def membersText (ms : List (String × Json)) : String := ", ".intercalate (ms.map memberText)

lemma membersText_single (e : String × Json) : membersText [e] = memberText e := String.intercalate_singleton

lemma toList_membersText_cons (e e' : String × Json) (es : List (String × Json)) :
    (membersText (e :: e' :: es)).toList =
      (memberText e).toList ++ ',' :: ' ' :: (membersText (e' :: es)).toList := by
  rw [membersText, List.map_cons, List.map_cons, String.intercalate_cons_cons, String.toList_append,
    String.toList_append, List.append_assoc]
  rfl

lemma membersText_solid (e : String × Json) (es : List (String × Json)) :
    ∃ q, (membersText (e :: es)).toList = '"' :: q := by
  cases es with
  | nil => exact ⟨_, by rw [membersText_single, toList_memberText]⟩
  | cons e' es => exact ⟨_, by rw [toList_membersText_cons, toList_memberText, List.cons_append]⟩

lemma members_membersText {ms : List (String × Json)} (hne : ms ≠ []) (h : ∀ e ∈ ms, ReadBack e.2) {fuel : Nat}
    (hf : (membersText ms).toList.length < fuel) (done : List (String × Json)) (pos : Nat) (r : List Char) :
    members fuel done ⟨pos, (membersText ms).toList ++ '}' :: r⟩ =
      .ok (done.reverse ++ ms, ⟨pos + (membersText ms).toList.length + 1, r⟩) := by
  induction ms generalizing fuel done pos with
  | nil => exact absurd rfl hne
  | cons e es ih =>
    obtain ⟨fuel, rfl⟩ := Nat.exists_eq_add_one_of_ne_zero (Nat.ne_zero_of_lt hf)
    have he := h e List.mem_cons_self
    cases es with
    | nil =>
      rw [membersText_single] at hf ⊢
      rw [members_member he (by omega) done pos (by decide)]
      simp [afterMember, Cursor.drop]
    | cons e' es =>
      obtain ⟨q, hq⟩ := membersText_solid e' es
      have hlen : (membersText (e :: e' :: es)).toList.length =
          (memberText e).toList.length + 2 + (membersText (e' :: es)).toList.length := by
        rw [toList_membersText_cons, List.length_append, List.length_cons, List.length_cons]
        omega
      have hf' : (membersText (e' :: es)).toList.length < fuel := by omega
      have hrest := ih (List.cons_ne_nil _ _) (fun x hx => h x (List.mem_cons_of_mem e hx)) hf' (e :: done)
        (pos + (memberText e).toList.length + 2)
      rw [hlen, toList_membersText_cons, List.append_assoc, List.cons_append,
        members_member he (by omega) done pos (by decide), afterMember]
      simp only [Cursor.drop, List.drop_one, List.tail_cons, List.cons_append, hq,
        skipSpace_space (show isSpace '"' = false by decide)]
      rw [← List.cons_append, ← hq, hrest, List.reverse_cons, List.append_assoc, List.singleton_append]
      congr 3
      omega

lemma toList_render_object (ms : List (String × Json)) :
    (Json.object ms).render.toList = '{' :: ((membersText ms).toList ++ ['}']) := by
  rw [render, renderMembers_eq_map, String.toList_append, String.toList_append]
  rfl

lemma readBack_object {ms : List (String × Json)} (hd : Distinct ms) (h : ∀ e ∈ ms, ReadBack e.2) :
    ReadBack (.object ms) := by
  have ht := toList_render_object ms
  constructor
  · exact ⟨_, _, ht, by decide⟩
  · intro fuel pos r hf
    rw [ht] at hf ⊢
    rw [List.length_cons, List.length_append, List.length_singleton] at hf
    obtain ⟨fuel, rfl⟩ := Nat.exists_eq_add_one_of_ne_zero (show fuel ≠ 0 by omega)
    rw [List.cons_append, List.append_assoc, List.singleton_append, value]
    cases ms with
    | nil =>
      simp only [Cursor.drop, membersText, List.map_nil, String.intercalate_nil, String.toList_empty,
        List.nil_append, List.drop_one, List.tail_cons, skipSpace_cons (show isSpace '}' = false by decide)]
      rfl
    | cons e es =>
      obtain ⟨q, hq⟩ := membersText_solid e es
      have hf' : (membersText (e :: es)).toList.length < fuel := by omega
      have hmembers := members_membersText (List.cons_ne_nil e es) h hf' [] (pos + 1) r
      have hobject : ofMembers (e :: es) = .object (e :: es) := congrArg Json.object (putAll_nil_left hd)
      simp only [Cursor.drop, List.drop_one, List.tail_cons, hq, List.cons_append,
        skipSpace_cons (show isSpace '"' = false by decide)]
      rw [hq, List.cons_append, List.length_cons] at hmembers
      simp only [hmembers, bind, Except.bind, List.reverse_nil, List.nil_append, hobject, List.length_cons,
        List.length_append, List.length_nil]
      change Except.ok (Json.object (e :: es), (⟨pos + 1 + (q.length + 1) + 1, r⟩ : Cursor)) = _
      congr 3
      omega

theorem parse_render {v : Json} (h : ReadBack v) : parse v.render.toList = .ok v := by
  obtain ⟨c, q, hc, hs⟩ := h.solid
  have hread := h.read (2 * v.render.toList.length + 2) 0 [] (by omega)
  rw [List.append_nil] at hread
  have hstart : skipSpace (Cursor.start v.render.toList) = ⟨0, v.render.toList⟩ := by
    rw [hc, Cursor.start, skipSpace_cons hs]
  rw [parse, hstart, hread]
  rfl

theorem parseBytes_render {e : String × Json} {es : List (String × Json)} (h : ReadBack (.object (e :: es))) :
    parseBytes (encodeUtf8 (Json.object (e :: es)).render.toList) = .ok (.object (e :: es)) := by
  obtain ⟨q, hq⟩ := membersText_solid e es
  have hdetect : detect (encodeUtf8 (Json.object (e :: es)).render.toList) = (.utf8, 0) := by
    rw [toList_render_object, hq]
    rfl
  have hdecode : decode (encodeUtf8 (Json.object (e :: es)).render.toList) =
      .ok (Json.object (e :: es)).render.toList := by
    rw [decode, hdetect]
    simp only [List.drop_zero, decodeUtf8_encodeUtf8]
    rfl
  rw [parseBytes, hdecode]
  simp only [parse_render h]
  rfl

end ConfigKeeper.Json
