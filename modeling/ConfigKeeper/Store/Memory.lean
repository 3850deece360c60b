import ConfigKeeper.Store.Basic

/-!
A store that keeps its groups in memory. A group can be marked to fail, and then every operation on
it does.
-/

namespace ConfigKeeper

structure Memory where
  groups : List (String × Group)
  failures : List (String × Failure)
deriving Repr

namespace Memory

def setGroup (m : Memory) (name : String) : Option Group → Memory
  | some g => { m with groups := Json.put m.groups name g }
  | none => { m with groups := m.groups.filter fun e => e.1 != name }

def setFailure (m : Memory) (name : String) : Option Failure → Memory
  | some f => { m with failures := Json.put m.failures name f }
  | none => { m with failures := m.failures.filter fun e => e.1 != name }

def fetch (m : Memory) (name : String) : Except Failure Group :=
  match m.failures.lookup name with
  | some f => .error f
  | none => match m.groups.lookup name with
    | some g => .ok g
    | none => .error (.problem .secretNotFound)

def update (m : Memory) (name : String) (data : Group) : Except Failure Memory :=
  match m.failures.lookup name with
  | some f => .error f
  | none => .ok (m.setGroup name (some (((m.groups.lookup name).getD []).merge data)))

def store : SecretStore Memory where
  fetch m _ name := (pure (m.fetch name), m)
  update m _ name data :=
    match m.update name data with
    | .ok m => (pure (.ok ()), m)
    | .error f => (pure (.error f), m)

theorem fetch_setGroup (m : Memory) (name : String) (g : Group)
    (h : m.failures.lookup name = none) : (m.setGroup name (some g)).fetch name = .ok g := by
  simp [fetch, setGroup, h, Json.lookup_put]

end Memory

end ConfigKeeper
