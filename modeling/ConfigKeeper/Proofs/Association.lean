import Mathlib.Tactic

namespace ConfigKeeper.Association

variable {κ α β : Type} [BEq κ] [LawfulBEq κ]

lemma lookup_isSome_iff_mem {entries : List (κ × α)} {key : κ} :
    (∃ value, entries.lookup key = some value) ↔ key ∈ entries.map Prod.fst := by
  rw [← Option.isSome_iff_exists, List.lookup_isSome_iff, List.mem_map]
  constructor
  · rintro ⟨x, hx, he⟩
    exact ⟨x, hx, (beq_iff_eq.1 he).symm⟩
  · rintro ⟨x, hx, rfl⟩
    exact ⟨x, hx, beq_self_eq_true _⟩

lemma lookup_eq_none {entries : List (κ × α)} {key : κ} (h : key ∉ entries.map Prod.fst) :
    entries.lookup key = none := by
  rw [← Option.not_isSome_iff_eq_none, Option.isSome_iff_exists]
  exact mt lookup_isSome_iff_mem.1 h

lemma mem_of_lookup {entries : List (κ × α)} {key : κ} {value : α} (h : entries.lookup key = some value) :
    (key, value) ∈ entries := by
  obtain ⟨front, back, rfl, -⟩ := List.lookup_eq_some_iff.1 h
  simp

lemma lookup_of_mem {entries : List (κ × α)} (hd : (entries.map Prod.fst).Nodup) {key : κ} {value : α}
    (h : (key, value) ∈ entries) : entries.lookup key = some value := by
  obtain ⟨front, back, rfl⟩ := List.append_of_mem h
  refine List.lookup_eq_some_iff.2 ⟨front, back, rfl, ?_⟩
  rintro x hx
  simp only [List.map_append, List.map_cons, List.nodup_append, List.mem_map, List.mem_cons] at hd
  rw [bne_iff_ne]
  exact fun he => hd.2.2 x.1 ⟨x, hx, rfl⟩ key (.inl rfl) he.symm

lemma lookup_of_perm {xs ys : List (κ × α)} (hp : xs.Perm ys) (hd : (ys.map Prod.fst).Nodup) (key : κ) :
    xs.lookup key = ys.lookup key := by
  have hx : (xs.map Prod.fst).Nodup := (hp.map Prod.fst).nodup_iff.2 hd
  ext value
  constructor
  · intro h
    exact lookup_of_mem hd (hp.subset (mem_of_lookup h))
  · intro h
    exact lookup_of_mem hx (hp.symm.subset (mem_of_lookup h))

omit [LawfulBEq κ] in
lemma lookup_map (f : α → β) (entries : List (κ × α)) (key : κ) :
    (entries.map fun x => (x.1, f x.2)).lookup key = (entries.lookup key).map f := by
  induction entries with
  | nil => rfl
  | cons x xs ih =>
    obtain ⟨own, value⟩ := x
    rw [List.map_cons, List.lookup_cons, List.lookup_cons, ih]
    cases key == own <;> rfl

omit [BEq κ] [LawfulBEq κ] in
lemma keys_map (f : α → β) (entries : List (κ × α)) :
    (entries.map fun x => (x.1, f x.2)).map Prod.fst = entries.map Prod.fst := by
  rw [List.map_map]
  rfl

lemma any_key_iff (entries : List (κ × α)) (key : κ) :
    entries.any (·.1 == key) = true ↔ key ∈ entries.map Prod.fst := by
  simp only [List.any_eq_true, beq_iff_eq, List.mem_map]

lemma lookup_replaced_of_ne {key own : κ} (h : own ≠ key) (entries : List (κ × α)) (value : α) :
    (entries.map fun x => if x.1 == key then (key, value) else x).lookup own = entries.lookup own := by
  induction entries with
  | nil => rfl
  | cons x xs ih =>
    obtain ⟨name, old⟩ := x
    rw [List.map_cons, List.lookup_cons, List.lookup_cons, ih]
    by_cases hx : name = key
    · have hk : (own == key) = false := by simpa using h
      simp [hx, hk]
    · simp [hx]

lemma lookup_replaced_self {key : κ} {entries : List (κ × α)} (h : key ∈ entries.map Prod.fst) (value : α) :
    (entries.map fun x => if x.1 == key then (key, value) else x).lookup key = some value := by
  induction entries with
  | nil => cases h
  | cons x xs ih =>
    obtain ⟨name, old⟩ := x
    rw [List.map_cons, List.lookup_cons]
    by_cases hx : name = key
    · simp [hx]
    · have hk : (key == name) = false := by simpa using Ne.symm hx
      have hm : key ∈ xs.map Prod.fst := by
        rcases List.mem_cons.1 h with he | hm
        · exact absurd he.symm hx
        · exact hm
      simpa [hx, hk] using ih hm

lemma keys_replaced (key : κ) (entries : List (κ × α)) (value : α) :
    (entries.map fun x => if x.1 == key then (key, value) else x).map Prod.fst = entries.map Prod.fst := by
  rw [List.map_map]
  apply List.map_congr_left
  rintro x -
  by_cases hx : x.1 = key <;> simp [hx]

end ConfigKeeper.Association
