import ConfigKeeper.Proofs.Console.Markup
import ConfigKeeper.Proofs.Project.Growth
import ConfigKeeper.Sync.Command
import Mathlib.Tactic

/-!
Reasoning about actions. An action is opened at its binds. What it keeps is shown for the few
primitives and carried through the rest.
-/

namespace ConfigKeeper.Sync

open Console

variable {σ π α β : Type}

namespace Action

@[simp] lemma result_pure (x : α) (s : Session σ π) : (pure x : Action σ π α).result s = (.ok x, s) := rfl

lemma result_bind (a : Action σ π α) (f : α → Action σ π β) (s : Session σ π) :
    (a >>= f).result s = match a.result s with
      | (.ok x, s) => (f x).result s
      | (.error e, s) => (.error e, s) := by
  rcases h : a.result s with ⟨x | x, s'⟩
  all_goals
    simp only [result, bind, ExceptT.bind, ExceptT.mk, StateT.bind] at h ⊢
    rw [h]
    rfl

lemma result_bind_ok {a : Action σ π α} {s s' : Session σ π} {x : α} (h : a.result s = (.ok x, s'))
    (f : α → Action σ π β) : (a >>= f).result s = (f x).result s' := by
  rw [result_bind, h]

lemma result_bind_error {a : Action σ π α} {s s' : Session σ π} {e : Failure}
    (h : a.result s = (.error e, s')) (f : α → Action σ π β) :
    (a >>= f).result s = (.error e, s') := by
  rw [result_bind, h]

lemma result_bind_pure (a : Action σ π α) (f : α → β) (s : Session σ π) :
    (a >>= fun x => pure (f x)).result s = ((a.result s).1.map f, (a.result s).2) := by
  rw [result_bind]
  rcases a.result s with ⟨e | x, s'⟩ <;> rfl

lemma ok_of_bind {a : Action σ π α} {f : α → Action σ π β} {s s₂ : Session σ π} {y : β}
    (h : (a >>= f).result s = (.ok y, s₂)) :
    ∃ x s₁, a.result s = (.ok x, s₁) ∧ (f x).result s₁ = (.ok y, s₂) := by
  rw [result_bind] at h
  rcases ha : a.result s with ⟨e | x, s₁⟩
  · simp [ha] at h
  · rw [ha] at h
    exact ⟨x, s₁, rfl, h⟩

lemma ok_of_map {a : Action σ π α} {f : α → β} {s : Session σ π} {y : β}
    (h : (a.result s).1.map f = .ok y) : ∃ x, a.result s = (.ok x, (a.result s).2) ∧ f x = y := by
  rcases ha : a.result s with ⟨e | x, s'⟩
  · rw [ha] at h
    cases h
  · rw [ha] at h
    exact ⟨x, rfl, Except.ok.inj h⟩

@[simp] lemma result_fail (f : Failure) (s : Session σ π) :
    (fail f : Action σ π α).result s = (.error f, s) := rfl

@[simp] lemma result_project (s : Session σ π) : project.result s = (.ok s.project, s) := rfl

@[simp] lemma result_lift (x : Except Failure α) (s : Session σ π) : (lift x).result s = (x, s) := rfl

@[simp] lemma result_logged (x : Logged (Except Failure α)) (s : Session σ π) :
    (logged x).result s = (x.value, { s with records := s.records ++ x.records }) := rfl

lemma result_note (x : Logged Unit) (s : Session σ π) :
    ∃ records, (note x).result s = (.ok (), { s with records := records }) := ⟨_, rfl⟩

lemma result_attempt (p : Failure → Bool) (a : Action σ π α) (s : Session σ π) :
    (attempt p a).result s = match a.result s with
      | (.ok x, s) => (.ok (.ok x), s)
      | (.error f, s) => (if p f then .ok (.error f) else .error f, s) := rfl

lemma result_writeFile (path : Path) (bytes : List UInt8) (s : Session σ π) :
    (writeFile path bytes).result s = match s.project.ensureDirectory path.parent with
      | (t, some e) => (.error (.file e), { s with project := t })
      | (t, none) => match t.writeFile path bytes with
        | .ok t => (.ok (), { s with project := t })
        | .error e => (.error (.file e), { s with project := t }) := rfl

lemma result_put (path : Path) (bytes : List UInt8) (s : Session σ π) :
    (writeFile path bytes).result s = ((s.project.put path bytes).2.elim (.ok ()) fun e => .error (.file e),
      { s with project := (s.project.put path bytes).1 }) := by
  rw [result_writeFile, Project.put]
  rcases s.project.ensureDirectory path.parent with ⟨t, _ | e⟩
  · simp only
    cases t.writeFile path bytes <;> rfl
  · rfl

/-- An action that goes well keeps `P`, and one that fails leaves a session that meets `E`. -/
structure Keeps (P E : Session σ π → Prop) (a : Action σ π α) : Prop where
  ok : ∀ {s s' x}, P s → a.result s = (.ok x, s') → P s'
  error : ∀ {s s' e}, P s → a.result s = (.error e, s') → E s'

namespace Keeps

variable {P E : Session σ π → Prop} {a : Action σ π α} {s : Session σ π}

lemma always (h : Keeps P P a) (hs : P s) : P (a.result s).2 := by
  rcases ha : a.result s with ⟨e | x, s'⟩
  · exact h.error hs ha
  · exact h.ok hs ha

lemma of_always (h : ∀ s, P s → P (a.result s).2) : Keeps P P a := by
  constructor
  · intro s s' x hs ha
    have hs' := h s hs
    rwa [ha] at hs'
  · intro s s' e hs ha
    have hs' := h s hs
    rwa [ha] at hs'

lemma pure (x : α) : Keeps P E (pure x : Action σ π α) := by
  constructor
  · rintro s _ _ hs ⟨⟩
    exact hs
  · rintro s _ _ hs ⟨⟩

lemma bind {f : α → Action σ π β} (ha : Keeps P E a) (hf : ∀ x, Keeps P E (f x)) : Keeps P E (a >>= f) := by
  constructor
  · intro s s₂ y hs h
    obtain ⟨x, s₁, h₁, h₂⟩ := ok_of_bind h
    exact (hf x).ok (ha.ok hs h₁) h₂
  · intro s s₂ e hs h
    rcases h₁ : a.result s with ⟨e' | x, s₁⟩
    · rw [result_bind_error h₁] at h
      cases h
      exact ha.error hs h₁
    · rw [result_bind_ok h₁] at h
      exact (hf x).error (ha.ok hs h₁) h

lemma ite {c : Prop} [Decidable c] {b : Action σ π α} (ha : Keeps P E a) (hb : Keeps P E b) :
    Keeps P E (if c then a else b) := by
  split
  · exact ha
  · exact hb

lemma project : Keeps P E project := by
  constructor
  · rintro s _ _ hs ⟨⟩
    exact hs
  · rintro s _ _ hs ⟨⟩

end Keeps

/-- `P` says nothing of what was printed or logged, and grants `E`. -/
structure Quiet (P E : Session σ π → Prop) : Prop where
  silent : ∀ s printed records, P s → P { s with printed := printed, records := records }
  grants : ∀ s, P s → E s

namespace Quiet

variable {P E : Session σ π → Prop}

lemma after (hp : Quiet P E) {a : Action σ π α} (ha : Keeps P E a) {s : Session σ π} (hs : P s) :
    E (a.result s).2 := by
  rcases hr : a.result s with ⟨e | x, s'⟩
  · exact ha.error hs hr
  · exact hp.grants s' (ha.ok hs hr)

lemma lift (hp : Quiet P E) (x : Except Failure α) : Keeps P E (Action.lift x) := by
  constructor
  · rintro s _ _ hs ⟨⟩
    exact hs
  · rintro s _ _ hs ⟨⟩
    exact hp.grants s hs

lemma fail (hp : Quiet P E) (f : Failure) : Keeps P E (Action.fail f : Action σ π α) := hp.lift (.error f)

lemma print (hp : Quiet P E) (lines : List (List Char)) : Keeps P E (Action.print lines) := by
  constructor
  · rintro s _ _ hs ⟨⟩
    exact hp.silent s _ s.records hs
  · rintro s _ _ hs ⟨⟩

lemma logged (hp : Quiet P E) (x : Logged (Except Failure α)) : Keeps P E (Action.logged x) := by
  constructor
  · intro s s' y hs h
    rw [result_logged, Prod.mk.injEq] at h
    obtain ⟨-, rfl⟩ := h
    exact hp.silent s s.printed _ hs
  · intro s s' e hs h
    rw [result_logged, Prod.mk.injEq] at h
    obtain ⟨-, rfl⟩ := h
    exact hp.grants _ (hp.silent s s.printed _ hs)

lemma note (hp : Quiet P E) (x : Logged Unit) : Keeps P E (Action.note x) := hp.logged _

lemma printMarkup (hp : Quiet P E) (width : Nat) (text : List Char) :
    Keeps P E (Action.printMarkup width text) := Keeps.bind (hp.lift _) fun _ => hp.print _

end Quiet

lemma printMarkup_ok {text shown : List Char} (h : Markup.render text = .ok shown) (width : Nat)
    (s : Session σ π) :
    ∃ printed, (printMarkup width text).result s = (.ok (), { s with printed := printed }) := by
  rw [printMarkup, result_bind, Report.markupLines, h]
  exact ⟨_, rfl⟩

lemma printMarkup_error {width : Nat} {text : List Char} {u : Markup.Unmatched}
    (h : Markup.render text = .error u) (s : Session σ π) :
    (printMarkup width text).result s = (.error (Report.ofMarkup u), s) := by
  rw [printMarkup, result_bind, Report.markupLines, h]
  rfl

lemma sayPlain_ok {text : String} (h : '[' ∉ text.toList) (k : Context σ π) (s : Session σ π) :
    ∃ printed, (sayPlain k text).result s = (.ok (), { s with printed := printed }) := by
  obtain ⟨shown, hs⟩ := Markup.render_of_no_bracket h
  exact printMarkup_ok hs k.width s

end Action

end ConfigKeeper.Sync
