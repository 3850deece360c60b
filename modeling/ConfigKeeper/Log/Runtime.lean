import ConfigKeeper.Log.Problem
import ConfigKeeper.Log.Registry

/-!
What a logging configuration finds in the program that it runs in: objects by name, and classes and
factories that make formatters, filters and handlers.
-/

namespace ConfigKeeper.Log

open Yaml (Pairs)

def objectMark : List Char := "ext://".toList

def objectText (name : String) : String := String.ofList objectMark ++ name

def standardError : String := "sys.stderr"

def standardOutput : String := "sys.stdout"

/-- Each function may raise something. A maker is given the whole configuration and the part that
describes what it makes. -/
structure Runtime (ε : Type) where
  /-- The value of a name; what is no value of a document is given as it is written there. -/
  object : String → Except (Halt ε) Yaml
  formatter : Pairs → Pairs → Except (Halt ε) Formatter
  filter : Pairs → Pairs → Except (Halt ε) Filter
  handler : Pairs → Pairs → Except (Halt ε) (String × Stream)
  /-- Whether something that is raised is an error, as faults are, or ends the program. -/
  isError : ε → Bool

namespace Runtime

variable {ε : Type}

def wrapped (rt : Runtime ε) (f : SetupFault) : Halt ε → Halt ε
  | .fault _ => .fault f
  | .other e => if rt.isError e then .fault f else .other e

def unresolved (name : String) : SetupFault := .badValue ("Cannot resolve " ++ quoted name)

def bare : Runtime Empty where
  object name :=
    if name = standardError || name = standardOutput then .ok (.string (objectText name))
    else .error (.fault (unresolved name))
  formatter _ _ := .error (.fault (unresolved "formatter"))
  filter _ _ := .error (.fault (unresolved "filter"))
  handler _ _ := .error (.fault (unresolved "handler"))
  isError e := nomatch e

end Runtime

end ConfigKeeper.Log
