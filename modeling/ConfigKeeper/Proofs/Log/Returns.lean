import ConfigKeeper.Proofs.Log.SetUp

namespace ConfigKeeper.Log

open Yaml (Heap Item)

variable {α β : Type} {t : Project} {q : Request} {path : Path} {c : Configuration} {name : String} {level : ℕ}

def Stops (x : Except SetupFault α) : Prop := ∃ f, x = .error f ∧ f.isHandled = false

section Stops

end Stops

section Override

end Override

section Load

end Load

section Result

variable {ε : Type} {lib : Library ε} {r : Registry} {out : Registry × List Record}

section Full

variable (hq : q.plain = false)

include hq

end Full

end Result

end ConfigKeeper.Log
