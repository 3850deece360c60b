import ConfigKeeper.Lint.Rule
import ConfigKeeper.Problem

/-!
Rules in the order of their registration. Each name is registered once.
-/

namespace ConfigKeeper.Lint

structure Registry where
  rules : List Rule
  nodup : (rules.map Rule.name).Nodup

namespace Registry

def empty : Registry := ⟨[], List.nodup_nil⟩

def names (g : Registry) : List String := g.rules.map Rule.name

def alreadyRegistered (name : String) : Problem :=
  .plain .lint ("Lint rule '" ++ name ++ "' is already registered") none

def notRegistered (name : String) : Problem :=
  .plain .lint ("Lint rule '" ++ name ++ "' not registered") none

theorem nodup_append {rules : List Rule} {r : Rule} (h : (rules.map Rule.name).Nodup)
    (hr : r.name ∉ rules.map Rule.name) : ((rules ++ [r]).map Rule.name).Nodup := by
  rw [List.map_append, List.nodup_append]
  refine ⟨h, by simp, ?_⟩
  intro a ha b hb e
  simp only [List.map_cons, List.map_nil, List.mem_singleton] at hb
  exact hr (by rw [← hb, ← e]; exact ha)

def register (g : Registry) (r : Rule) : Except Problem Registry :=
  if h : r.name ∈ g.rules.map Rule.name then .error (alreadyRegistered r.name)
  else .ok ⟨g.rules ++ [r], nodup_append g.nodup h⟩

def get (g : Registry) (name : String) : Except Problem Rule :=
  match g.rules.find? fun r => r.name = name with
  | some r => .ok r
  | none => .error (notRegistered name)

def rulesFor (g : Registry) (path : String) : List Rule := g.rules.filter fun r => r.appliesTo path

def ofRules (rules : List Rule) : Except Problem Registry :=
  rules.foldlM (fun g r => g.register r) empty

def default : Registry := ⟨builtInRules, by decide⟩

end Registry

end ConfigKeeper.Lint
