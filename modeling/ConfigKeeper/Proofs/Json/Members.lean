import ConfigKeeper.Json.MergePatch
import ConfigKeeper.Proofs.Association
import ConfigKeeper.Store.Basic

namespace ConfigKeeper.Json

open Association

variable {α β : Type}

def Distinct (members : List (String × α)) : Prop := (members.map Prod.fst).Nodup

instance (members : List (String × α)) : Decidable (Distinct members) :=
  inferInstanceAs (Decidable (List.Nodup _))

def putAll (members added : List (String × α)) : List (String × α) :=
  added.foldl (fun done x => put done x.1 x.2) members

lemma put_of_mem {members : List (String × α)} {name : String} (h : name ∈ members.map Prod.fst) (value : α) :
    put members name value = members.map fun x => if x.1 == name then (name, value) else x :=
  if_pos ((any_key_iff members name).2 h)

lemma put_of_not_mem {members : List (String × α)} {name : String} (h : name ∉ members.map Prod.fst)
    (value : α) :
    put members name value = members ++ [(name, value)] :=
  if_neg (mt (any_key_iff members name).1 h)

lemma lookup_put_of_ne {name key : String} (h : key ≠ name) (members : List (String × α)) (value : α) :
    (put members name value).lookup key = members.lookup key := by
  by_cases hm : name ∈ members.map Prod.fst
  · rw [put_of_mem hm, lookup_replaced_of_ne h]
  · rw [put_of_not_mem hm, List.lookup_append]
    have hk : (key == name) = false := by simpa using h
    simp [List.lookup_cons, hk]

lemma names_put_of_mem {members : List (String × α)} {name : String} (h : name ∈ members.map Prod.fst)
    (value : α) : (put members name value).map Prod.fst = members.map Prod.fst := by
  rw [put_of_mem h, keys_replaced]

lemma Distinct.put {members : List (String × α)} (h : Distinct members) (name : String) (value : α) :
    Distinct (put members name value) := by
  by_cases hm : name ∈ members.map Prod.fst
  · rwa [Distinct, names_put_of_mem hm]
  · rw [Distinct, put_of_not_mem hm, List.map_append, List.nodup_append]
    refine ⟨h, List.nodup_singleton _, ?_⟩
    rintro x hx y hy he
    rw [he, List.mem_singleton.1 hy] at hx
    exact hm hx

lemma putAll_cons (members : List (String × α)) (x : String × α) (added : List (String × α)) :
    putAll members (x :: added) = putAll (put members x.1 x.2) added := rfl

lemma lookup_putAll {added : List (String × α)} (hd : Distinct added) (members : List (String × α))
    (key : String) :
    (putAll members added).lookup key = (added.lookup key).or (members.lookup key) := by
  induction added generalizing members with
  | nil => rfl
  | cons x xs ih =>
    obtain ⟨name, value⟩ := x
    have hx : name ∉ xs.map Prod.fst := (List.nodup_cons.1 hd).1
    rw [putAll_cons, ih (List.nodup_cons.1 hd).2, List.lookup_cons]
    by_cases hk : key = name
    · subst hk
      simp [lookup_eq_none hx, lookup_put]
    · have hb : (key == name) = false := by simpa using hk
      simp [hb, lookup_put_of_ne hk]

lemma Distinct.putAll {members : List (String × α)} (h : Distinct members) (added : List (String × α)) :
    Distinct (putAll members added) := by
  induction added generalizing members with
  | nil => exact h
  | cons x xs ih => exact ih (h.put x.1 x.2)

lemma putAll_nil_left {added : List (String × α)} (h : Distinct added) : putAll [] added = added := by
  suffices hs : ∀ done : List (String × α), Distinct (done ++ added) → putAll done added = done ++ added from
    hs [] h
  clear h
  induction added with
  | nil => simp [putAll]
  | cons x xs ih =>
    intro done hd
    have hx : x.1 ∉ done.map Prod.fst := by
      simp only [Distinct, List.map_append, List.map_cons, List.nodup_append] at hd
      exact fun hm => hd.2.2 _ hm _ List.mem_cons_self rfl
    rw [putAll_cons, put_of_not_mem hx, ih _ (by simpa using hd), List.append_assoc, List.singleton_append]

lemma put_map (f : α → β) (members : List (String × α)) (name : String) (value : α) :
    put (members.map fun x => (x.1, f x.2)) name (f value) = (put members name value).map fun x => (x.1, f x.2) := by
  by_cases hm : name ∈ members.map Prod.fst
  · have hf : name ∈ (members.map fun x => (x.1, f x.2)).map Prod.fst := by rwa [keys_map f]
    rw [put_of_mem hm, put_of_mem hf, List.map_map, List.map_map]
    refine List.map_congr_left fun x _ => ?_
    simp only [Function.comp_apply]
    split <;> rfl
  · have hf : name ∉ (members.map fun x => (x.1, f x.2)).map Prod.fst := by rwa [keys_map f]
    rw [put_of_not_mem hm, put_of_not_mem hf, List.map_append]
    rfl

lemma putAll_map (f : α → β) (members added : List (String × α)) :
    putAll (members.map fun x => (x.1, f x.2)) (added.map fun x => (x.1, f x.2)) =
      (putAll members added).map fun x => (x.1, f x.2) := by
  induction added generalizing members with
  | nil => rfl
  | cons x xs ih => rw [List.map_cons, putAll_cons, putAll_cons, put_map, ih]

lemma mergeMembers_strings (members : List (String × Json)) (patch : List (String × String)) :
    mergeMembers members (patch.map fun e => (e.1, .string e.2)) =
      putAll members (patch.map fun e => (e.1, .string e.2)) := by
  induction patch generalizing members with
  | nil => rw [List.map_nil, mergeMembers]; rfl
  | cons e es ih =>
    rw [List.map_cons, mergeMembers_string, putAll_cons]
    exact ih _

end ConfigKeeper.Json

namespace ConfigKeeper.Group

lemma merge_eq_putAll (g data : Group) : g.merge data = Json.putAll g data := rfl

lemma lookup_merge_single (g : Group) (name text key : String) :
    (g.merge [(name, text)]).lookup key = if key = name then some text else g.lookup key := by
  change (Json.put g name text).lookup key = _
  split
  · next h => rw [h, Json.lookup_put]
  · next h => exact Json.lookup_put_of_ne h g text

end ConfigKeeper.Group
