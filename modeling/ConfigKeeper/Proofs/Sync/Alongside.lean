import ConfigKeeper.Proofs.Sync.Approval

/-!
Two runs side by side. Whatever is not said to the store or to what is known of it goes the same way
in both, so a relation between runs is carried through a command once looking a group up and sending
one carry it. A relation of a run to itself is an invariant.
-/

namespace ConfigKeeper.Sync

open Sync.Action

variable {σ π α β : Type} {k : Context σ π} {root : Path} {token : String}

/-- Two runs in `R` give the same and stay in `R`, provided the first one ends in `F`. -/
structure Along (R : Session σ π → Session σ π → Prop) (F : Session σ π → Prop) (a : Action σ π α) : Prop where
  back : ∀ {s}, F (a.result s).2 → F s
  same : ∀ {s u}, R s u → F (a.result s).2 → (a.result u).1 = (a.result s).1 ∧ R (a.result s).2 (a.result u).2

def Session.moved (s : Session σ π) (t : Project) (p : π) (lines : List (List Char)) (xs : List Log.Record) :
    Session σ π :=
  { s with project := t, prompter := p, printed := lines, records := s.records ++ xs }

structure Outward (R : Session σ π → Session σ π → Prop) (F : Session σ π → Prop) : Prop where
  project : ∀ {s u}, R s u → u.project = s.project
  prompter : ∀ {s u}, R s u → u.prompter = s.prompter
  printed : ∀ {s u}, R s u → u.printed = s.printed
  moved : ∀ {s u} t p lines xs, R s u → R (s.moved t p lines xs) (u.moved t p lines xs)
  back : ∀ {s : Session σ π} t p lines xs, F (s.moved t p lines xs) → F s

section Steps

variable {R : Session σ π → Session σ π → Prop} {F : Session σ π → Prop} {a : Action σ π α}

namespace Along

lemma pure (x : α) : Along R F (pure x : Action σ π α) := ⟨id, fun hr _ => ⟨rfl, hr⟩⟩

lemma bind_of {f : α → Action σ π β} (ha : Along R F a)
    (hf : ∀ x s s', a.result s = (.ok x, s') → Along R F (f x)) : Along R F (a >>= f) := by
  constructor
  · intro s h
    rcases hr : a.result s with ⟨e | x, s₁⟩
    · rw [result_bind_error hr] at h
      exact ha.back (by rwa [hr])
    · rw [result_bind_ok hr] at h
      exact ha.back (by rw [hr]; exact (hf x s s₁ hr).back h)
  · intro s u hsu h
    rcases hr : a.result s with ⟨e | x, s₁⟩
    · rw [result_bind_error hr] at h ⊢
      obtain ⟨hv, hafter⟩ := ha.same hsu (by rwa [hr])
      rcases hu : a.result u with ⟨e' | x', u₁⟩
      · rw [hr, hu] at hv hafter
        have he : e' = e := Except.error.inj hv
        rw [result_bind_error hu, he]
        exact ⟨rfl, hafter⟩
      · rw [hr, hu] at hv
        cases hv
    · rw [result_bind_ok hr] at h ⊢
      have hf := hf x s s₁ hr
      obtain ⟨hv, hafter⟩ := ha.same hsu (by rw [hr]; exact hf.back h)
      rcases hu : a.result u with ⟨e' | x', u₁⟩
      · rw [hr, hu] at hv
        cases hv
      · rw [hr, hu] at hv hafter
        obtain rfl := Except.ok.inj hv
        rw [result_bind_ok hu]
        exact hf.same hafter h

lemma bind {f : α → Action σ π β} (ha : Along R F a) (hf : ∀ x, Along R F (f x)) : Along R F (a >>= f) :=
  ha.bind_of fun x _ _ _ => hf x

lemma ite {c : Prop} [Decidable c] {b : Action σ π α} (ha : Along R F a) (hb : Along R F b) :
    Along R F (if c then a else b) := by
  split
  · exact ha
  · exact hb

lemma back_of_bind {f : α → Action σ π β} (hf : ∀ x, Along R F (f x)) {s : Session σ π}
    (h : F ((a >>= f).result s).2) : F (a.result s).2 := by
  rcases hr : a.result s with ⟨e | x, s₁⟩
  · rwa [result_bind_error hr] at h
  · rw [result_bind_ok hr] at h
    exact (hf x).back h

lemma after_attempt (p : Failure → Bool) (a : Action σ π α) (s : Session σ π) :
    ((Action.attempt p a).result s).2 = (a.result s).2 := by
  rw [result_attempt]
  rcases a.result s with ⟨e | x, s₁⟩ <;> rfl

lemma attempt (ha : Along R F a) (p : Failure → Bool) : Along R F (Action.attempt p a) := by
  have hfinal := after_attempt p a
  have hvalue : ∀ s u, (a.result u).1 = (a.result s).1 →
      ((Action.attempt p a).result u).1 = ((Action.attempt p a).result s).1 := fun s u h => by
    rw [result_attempt, result_attempt]
    rcases hs : a.result s with ⟨e | x, s₁⟩ <;> rcases hu : a.result u with ⟨e' | x', u₁⟩ <;> rw [hs, hu] at h <;>
      cases h <;> rfl
  constructor
  · intro s h
    rw [hfinal] at h
    exact ha.back h
  · intro s u hsu h
    rw [hfinal] at h
    obtain ⟨hv, hafter⟩ := ha.same hsu h
    exact ⟨hvalue s u hv, by rwa [hfinal, hfinal]⟩

lemma of_moved (h : Outward R F)
    (f : Project → π → List (List Char) → Except Failure α × Project × π × List (List Char) × List Log.Record)
    (ha : ∀ s, a.result s = ((f s.project s.prompter s.printed).1,
      s.moved (f s.project s.prompter s.printed).2.1 (f s.project s.prompter s.printed).2.2.1
        (f s.project s.prompter s.printed).2.2.2.1 (f s.project s.prompter s.printed).2.2.2.2)) :
    Along R F a := by
  constructor
  · intro s hs
    rw [ha] at hs
    exact h.back _ _ _ _ hs
  · intro s u hsu _
    rw [ha s, ha u, h.project hsu, h.prompter hsu, h.printed hsu]
    exact ⟨rfl, h.moved _ _ _ _ hsu⟩

end Along

namespace Outward

variable (h : Outward R F)

include h

lemma askProject : Along R F Action.project :=
  Along.of_moved h (fun t p lines => (.ok t, t, p, lines, [])) fun s => by
    rw [Session.moved, List.append_nil]
    rfl

lemma lift (x : Except Failure α) : Along R F (Action.lift x) :=
  Along.of_moved h (fun t p lines => (x, t, p, lines, [])) fun s => by
    rw [Session.moved, List.append_nil]
    rfl

lemma print (lines : List (List Char)) : Along R F (Action.print lines) :=
  Along.of_moved h (fun t p own => (.ok (), t, p, own ++ lines, [])) fun s => by
    rw [Session.moved, List.append_nil]
    rfl

lemma logged (x : Logged (Except Failure α)) : Along R F (Action.logged x) :=
  Along.of_moved h (fun t p lines => (x.value, t, p, lines, x.records)) fun _ => rfl

lemma confirm (message : String) : Along R F (Action.confirm k message) :=
  Along.of_moved h (fun t p lines => ((k.prompter.confirm p message).1.answer, t, (k.prompter.confirm p message).2,
    lines ++ (k.prompter.confirm p message).1.printed, [])) fun s => by
    rw [Session.moved, List.append_nil]
    rfl

lemma select (message : String) (options : List String) : Along R F (Action.select k message options) :=
  Along.of_moved h (fun t p lines => ((k.prompter.select p message options).1.answer, t,
    (k.prompter.select p message options).2, lines ++ (k.prompter.select p message options).1.printed, []))
    fun s => by
    rw [Session.moved, List.append_nil]
    rfl

lemma writeFile (path : Path) (bytes : List UInt8) : Along R F (Action.writeFile path bytes) :=
  Along.of_moved h (fun t p lines => ((t.put path bytes).2.elim (.ok ()) fun e => .error (.file e),
    (t.put path bytes).1, p, lines, [])) fun s => by
    rw [Session.moved, List.append_nil]
    exact result_put path bytes s

lemma printMarkup (width : Nat) (text : List Char) : Along R F (Action.printMarkup width text) :=
  (h.lift _).bind fun _ => h.print _

end Outward

end Steps

section Commands

variable {R : Session σ π → Session σ π → Prop} {F : Session σ π → Prop} (h : Outward R F)

include h

lemma printAll_along (line : α → List Char) (xs : List α) : Along R F (printAll k line xs) := by
  induction xs with
  | nil => exact Along.pure ()
  | cons x xs ih => exact (h.printMarkup _ _).bind fun _ => ih

lemma discover_along : Along R F (discover k root) := by
  refine h.askProject.bind fun t => (h.logged _).bind fun files => ?_
  refine Along.ite (h.lift (.error _)) ((h.logged _).bind fun x => ?_)
  exact (printAll_along h _ _).bind fun _ => (printAll_along h _ _).bind fun _ => Along.pure x

lemma resolve_along {i : SecretInfo} (hg : Along R F (Action.group k token i.groupPath)) :
    Along R F (resolve k token i) := by
  refine hg.bind fun g => ?_
  split
  · exact Along.pure _
  · exact h.lift (.error _)

lemma drift?_along {i : SecretInfo} (hg : Along R F (Action.group k token i.groupPath)) :
    Along R F (drift? k token root i) := by
  refine h.askProject.bind fun t => (h.lift _).bind fun there => Along.ite ?_ ?_
  · exact (h.logged _).bind fun text => (resolve_along h hg).bind fun value => Along.pure _
  · exact (h.printMarkup _ _).bind fun _ => Along.pure none

lemma driftOf_along {is : List SecretInfo} (hg : ∀ i ∈ is, Along R F (Action.group k token i.groupPath)) :
    Along R F (driftOf k token root is) := by
  induction is with
  | nil => exact Along.pure []
  | cons i is ih =>
    obtain ⟨hi, his⟩ := List.forall_mem_cons.1 hg
    exact (drift?_along h hi).bind fun found => (ih his).bind fun rest => Along.pure _

lemma compare_along {is : List SecretInfo} (hg : ∀ i ∈ is, Along R F (Action.group k token i.groupPath)) :
    Along R F (compare k token root is) :=
  (driftOf_along h hg).bind fun found => (h.logged _).bind fun _ => Along.pure found

def pullSays (k : Context σ π) (root : Path) (i : SecretInfo) : Except Failure Unit → Action σ π (Option String)
  | .ok () => do
    Action.printMarkup k.width (createdLine root i.localPath)
    pure none
  | .error f => do
    Action.printMarkup k.width (notCreatedLine root i.localPath f.message)
    pure (some f.message)

omit h in
lemma pullOne_eq (k : Context σ π) (token : String) (root : Path) (i : SecretInfo) :
    pullOne k token root i = (Action.attempt isLocal (pullContent k token i) >>= pullSays k root i) := rfl

lemma pullSays_along (i : SecretInfo) (r : Except Failure Unit) : Along R F (pullSays k root i r) := by
  rcases r with f | ⟨⟩
  · exact (h.printMarkup _ _).bind fun _ => Along.pure _
  · exact (h.printMarkup _ _).bind fun _ => Along.pure none

lemma pullOne_along {i : SecretInfo} (hg : Along R F (Action.group k token i.groupPath)) :
    Along R F (pullOne k token root i) := by
  have hcontent : Along R F (pullContent k token i) := (resolve_along h hg).bind fun value => h.writeFile _ _
  rw [pullOne_eq]
  exact (hcontent.attempt isLocal).bind (pullSays_along h i)

lemma after_lookup {i : SecretInfo} {s : Session σ π} (hs : F ((pullOne k token root i).result s).2) :
    F ((Action.group k token i.groupPath).result s).2 := by
  rw [pullOne_eq] at hs
  have hcontent : F ((pullContent k token i).result s).2 := by
    rw [← Along.after_attempt isLocal]
    exact Along.back_of_bind (pullSays_along h i) hs
  have hresolve : F ((resolve k token i).result s).2 := Along.back_of_bind (fun _ => h.writeFile _ _) hcontent
  refine Along.back_of_bind (R := R) (fun g => ?_) hresolve
  split
  · exact Along.pure _
  · exact h.lift (.error _)

lemma pullEach_along {is : List SecretInfo} (hg : ∀ i ∈ is, Along R F (Action.group k token i.groupPath)) :
    Along R F (pullEach k token root is) := by
  induction is with
  | nil => exact Along.pure []
  | cons i is ih =>
    obtain ⟨hi, his⟩ := List.forall_mem_cons.1 hg
    exact (pullOne_along h hi).bind fun reason => (ih his).bind fun rest => Along.pure _

lemma render_along (d : Drift) : Along R F (render k root d) := h.print _

lemma renderEach_along (ds : List Drift) : Along R F (renderEach k root ds) := by
  induction ds with
  | nil => exact Along.pure ()
  | cons d ds ih => exact (render_along h d).bind fun _ => ih

lemma sayPlain_along (text : String) : Along R F (sayPlain k text) := h.printMarkup _ _

lemma choose_along (ds : List Drift) : Along R F (choose k root ds) := by
  by_cases hl : ds.length = 1
  · obtain ⟨d, rfl⟩ := List.length_eq_one_iff.1 hl
    exact (sayPlain_along h _).bind fun _ => Along.pure _
  · rw [choose_of_length_ne_one k root hl]
    exact (h.select _ _).bind fun _ => Along.pure _

variable (hu : ∀ name data, Along R F (Action.update k token name data))

include hu

lemma send_along {d : Drift} (hg : Along R F (Action.group k token d.secret.groupPath)) :
    Along R F (send k token root d) :=
  hg.bind fun _ => (hu _ _).bind fun _ => (h.logged _).bind fun _ => h.printMarkup _ _

lemma pushChosen_along {d : Drift} (hg : Along R F (Action.group k token d.secret.groupPath)) :
    Along R F (pushChosen k token root d) := by
  refine (render_along h d).bind fun _ => (h.confirm _).bind fun _ => Along.ite ?_ ?_
  · exact (send_along h hu hg).bind fun _ => Along.pure _
  · exact (sayPlain_along h _).bind fun _ => Along.pure none

lemma pushDrifted_along {ds : List Drift} (hg : ∀ d ∈ ds, Along R F (Action.group k token d.secret.groupPath)) :
    Along R F (pushDrifted k token root ds) := by
  refine Along.ite ((sayPlain_along h _).bind fun _ => Along.pure none) ?_
  refine (choose_along h ds).bind_of fun chosen s s' hc => ?_
  cases chosen with
  | none => exact (sayPlain_along h _).bind fun _ => Along.pure none
  | some d => exact pushChosen_along h hu (hg d (picks_of_choose hc).mem)

end Commands

end ConfigKeeper.Sync
