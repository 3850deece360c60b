import ConfigKeeper.Store.Basic

/-!
What one run knows of the store. Each group is asked for once: its content is remembered, and so is
the problem of a store that did not give it.
-/

namespace ConfigKeeper

structure Cache where
  answers : List (String × Except Problem Group)

namespace Cache

def empty : Cache := ⟨[]⟩

def answer? (c : Cache) (group : String) : Option (Except Problem Group) := c.answers.lookup group

def knows (c : Cache) (group : String) : Bool := (c.answer? group).isSome

def remember (c : Cache) (group : String) (answer : Except Problem Group) : Cache :=
  ⟨(group, answer) :: c.answers⟩

/-- Only what the store itself is the cause of is remembered. -/
def note (c : Cache) (group : String) : Except Failure Group → Cache
  | .ok g => c.remember group (.ok g)
  | .error (.problem p) => if p.isStore then c.remember group (.error p) else c
  | .error _ => c

structure Lookup (σ : Type) where
  answer : Logged (Except Failure Group)
  cache : Cache
  state : σ

def group {σ : Type} (store : SecretStore σ) (token name : String) (c : Cache) (s : σ) : Lookup σ :=
  match c.answer? name with
  | some a => ⟨pure (a.mapError Failure.problem), c, s⟩
  | none =>
    let (answer, s) := store.fetch s token name
    let records := (Logged.debug "sync" ("Fetching secret group " ++ name)).records
    ⟨⟨answer.value, records ++ answer.records⟩, c.note name answer.value, s⟩

theorem answer?_remember (c : Cache) (name : String) (a : Except Problem Group) :
    (c.remember name a).answer? name = some a := by
  simp [answer?, remember]

end Cache

end ConfigKeeper
