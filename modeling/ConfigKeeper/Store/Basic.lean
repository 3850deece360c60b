import ConfigKeeper.Json.Basic
import ConfigKeeper.Log.Record
import ConfigKeeper.Problem

/-!
Secret stores. A store keeps groups of named values; how it answers may depend on all that was asked
before, so an operation takes the store's state and gives the next one.
-/

namespace ConfigKeeper

abbrev Group := List (String × String)

namespace Group

def merge (g data : Group) : Group := data.foldl (fun g e => Json.put g e.1 e.2) g

end Group

structure SecretStore (σ : Type) where
  fetch : σ → String → String → Logged (Except Failure Group) × σ
  update : σ → String → String → Group → Logged (Except Failure Unit) × σ

/-- The token of the settings; an empty one counts as none. -/
def requireToken (token : Option String) : Except Problem String :=
  match token with
  | some t => if t.isEmpty then .error .tokenMissing else .ok t
  | none => .error .tokenMissing

end ConfigKeeper
