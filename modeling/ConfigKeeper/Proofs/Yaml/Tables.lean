import ConfigKeeper.Yaml.Heap
import Mathlib.Tactic

/-!
What a table holds once a value is written to it, and a heap once tables of it are changed.
-/

namespace ConfigKeeper.Yaml

variable {α : Type} {pairs : List (Yaml × α)} {name : String}

lemma sameKey_string_iff {v : Yaml} : sameKey v (.string name) = true ↔ v = .string name := by
  cases v <;> simp [sameKey, number?]

lemma sameKey_self (name : String) : sameKey (.string name) (.string name) = true := sameKey_string_iff.2 rfl

lemma sameKey_other {other : String} (h : other ≠ name) {key : Yaml} (hk : sameKey key (.string name) = true) :
    sameKey key (.string other) = false := by
  rw [sameKey_string_iff.1 hk, ← Bool.not_eq_true, sameKey_string_iff]
  exact fun he => h (Yaml.string.inj he).symm

lemma find?_replaced {other : String} (h : other ≠ name) (value : α) (pairs : List (Yaml × α)) :
    find? (pairs.map fun p => if sameKey p.1 (.string name) then (p.1, value) else p) other = find? pairs other := by
  induction pairs with
  | nil => rfl
  | cons p pairs ih =>
    obtain ⟨key, old⟩ := p
    rw [find?] at ih ⊢
    rw [find?] at ih ⊢
    rw [List.map_cons, List.find?_cons, List.find?_cons]
    by_cases hk : sameKey key (.string name) = true
    · simp only [hk, if_true, sameKey_other h hk]
      exact ih
    · simp only [hk, if_false, Bool.false_eq_true]
      cases sameKey key (.string other)
      · exact ih
      · rfl

lemma find?_put_of_ne {other : String} (h : other ≠ name) (pairs : List (Yaml × α)) (value : α) :
    find? (put pairs (.string name) value) other = find? pairs other := by
  rw [put]
  split
  · exact find?_replaced h value pairs
  · have hnew : sameKey (.string name) (.string other) = false := sameKey_other h (sameKey_self name)
    rw [find?, List.find?_append, List.find?_singleton, hnew, find?]
    simp

lemma find?_replaced_self (value : α)
    (h : (pairs.any fun p => sameKey p.1 (.string name)) = true) :
    find? (pairs.map fun p => if sameKey p.1 (.string name) then (p.1, value) else p) name = some value := by
  induction pairs with
  | nil => cases h
  | cons p pairs ih =>
    obtain ⟨key, old⟩ := p
    rw [find?] at ih ⊢
    rw [List.map_cons, List.find?_cons]
    by_cases hk : sameKey key (.string name) = true
    · simp [hk]
    · simp only [hk, if_false, Bool.false_eq_true]
      exact ih (by simpa [hk] using h)

lemma find?_put_self (pairs : List (Yaml × α)) (name : String) (value : α) :
    find? (put pairs (.string name) value) name = some value := by
  rw [put]
  split
  · next h => exact find?_replaced_self value h
  · next h =>
    have hnone : pairs.find? (fun p => sameKey p.1 (.string name)) = none := by simpa using h
    simp [find?, List.find?_append, hnone, sameKey_self]

lemma find?_of_without {other : String} {v : α} (h : find? (without pairs other) name = some v) :
    find? pairs name = some v := by
  obtain ⟨p, hp, rfl⟩ := Option.map_eq_some_iff.1 h
  have hkey := List.find?_some hp
  have hleft := (List.mem_filter.1 (List.mem_of_find?_eq_some hp)).2
  have hother : other ≠ name := by
    rintro rfl
    rw [hkey] at hleft
    cases hleft
  have hsame : pairs.find? (fun p => sameKey p.1 (.string name)) = some p := by
    rw [← hp, without, List.find?_filter]
    congr 1
    funext p
    by_cases hk : sameKey p.1 (.string name) = true
    · simp [hk, sameKey_other hother hk]
    · simp [hk]
  rw [find?, hsame]
  rfl

lemma find?_map {β : Type} (f : α → β) (pairs : List (Yaml × α)) (name : String) :
    find? (pairs.map fun p => (p.1, f p.2)) name = (find? pairs name).map f := by
  rw [find?, find?, List.find?_map, Option.map_map, Option.map_map]
  rfl

lemma any_sameKey (pairs : List (Yaml × α)) (name : String) :
    (pairs.any fun p => sameKey p.1 (.string name)) = (find? pairs name).isSome := by
  rw [find?, Option.isSome_map, List.isSome_find?]

lemma put_of_isSome (h : (find? pairs name).isSome = true) (value : α) :
    put pairs (.string name) value = pairs.map fun p => if sameKey p.1 (.string name) then (p.1, value) else p := by
  rw [put, any_sameKey, if_pos h]

lemma without_put (pairs : List (Yaml × α)) (name : String) (value : α) :
    without (put pairs (.string name) value) name = without pairs name := by
  have hreplaced : without (pairs.map fun p => if sameKey p.1 (.string name) then (p.1, value) else p) name =
      without pairs name := by
    induction pairs with
    | nil => rfl
    | cons p pairs ih =>
      rw [without, without] at ih ⊢
      rw [List.map_cons, List.filter_cons, List.filter_cons, ih]
      by_cases hk : sameKey p.1 (.string name) = true <;> simp [hk]
  rw [put]
  split
  · exact hreplaced
  · rw [without, List.filter_append, List.filter_singleton, sameKey_self]
    exact List.append_nil _

lemma put_put (pairs : List (Yaml × α)) (name : String) (old value : α) :
    put (put pairs (.string name) old) (.string name) value = put pairs (.string name) value := by
  have hfound : (find? (put pairs (.string name) old) name).isSome = true := by rw [find?_put_self]; rfl
  rw [put_of_isSome hfound, put, put]
  split
  · rw [List.map_map]
    refine List.map_congr_left fun p _ => ?_
    rw [Function.comp_apply]
    by_cases hp : sameKey p.1 (.string name) = true <;> simp [hp]
  · next h =>
    rw [List.map_append, List.map_singleton, if_pos (sameKey_self name)]
    congr 1
    refine (List.map_congr_left fun p hp => if_neg fun hsame => h ?_).trans (List.map_id pairs)
    exact List.any_eq_true.2 ⟨p, hp, hsame⟩

namespace Heap

variable {f g : Table → Table}

lemma change_congr {h : Heap} {id : ℕ} (hfg : f (h.tables id) = g (h.tables id)) : h.change id f = h.change id g := by
  rw [change, change]
  congr 1
  funext i
  by_cases hi : i = id
  · rw [if_pos hi, if_pos hi, hi, hfg]
  · rw [if_neg hi, if_neg hi]

lemma change_of_fixed {h : Heap} {id : ℕ} (hf : f (h.tables id) = h.tables id) : h.change id f = h := by
  have hid : h.change id (fun t => t) = h := by simp [change]
  exact (change_congr hf).trans hid

def changeAll (h : Heap) (f : Table → Table) (ids : List ℕ) : Heap := ids.foldl (fun h id => h.change id f) h

lemma changeAll_cons (h : Heap) (f : Table → Table) (id : ℕ) (ids : List ℕ) :
    h.changeAll f (id :: ids) = (h.change id f).changeAll f ids := rfl

lemma lists_changeAll (h : Heap) (f : Table → Table) (ids : List ℕ) : (h.changeAll f ids).lists = h.lists := by
  induction ids generalizing h with
  | nil => rfl
  | cons id ids ih => exact ih (h.change id f)

lemma tables_changeAll (hf : ∀ t, f (f t) = f t) (h : Heap) (ids : List ℕ) (i : ℕ) :
    (h.changeAll f ids).tables i = if i ∈ ids then f (h.tables i) else h.tables i := by
  induction ids generalizing h with
  | nil => simp [changeAll]
  | cons id ids ih =>
    rw [changeAll_cons, ih]
    by_cases hi : i = id
    · rw [hi, tables_change_self, hf, if_pos List.mem_cons_self, ite_self]
    · simp only [tables_change_of_ne h hi, List.mem_cons, hi, false_or]

lemma changeAll_of_fixed {h : Heap} {ids : List ℕ} (hf : ∀ id ∈ ids, f (h.tables id) = h.tables id) :
    h.changeAll f ids = h := by
  induction ids with
  | nil => rfl
  | cons id ids ih =>
    obtain ⟨hid, hids⟩ := List.forall_mem_cons.1 hf
    rw [changeAll_cons, change_of_fixed hid, ih hids]

end Heap

end ConfigKeeper.Yaml
