import ConfigKeeper.Json.MergePatch
import ConfigKeeper.Store.Vault

/-!
A server that keeps groups of JSON values. It answers a GET with the group and applies the body of a
PATCH as a merge patch. Transports can be given fixed answers to some requests, and can keep a list
of what they carried.
-/

namespace ConfigKeeper.Vault

abbrev Groups := List (String × Json)

def Request.group (q : Request) : String :=
  let path := match Url.parse q.url.toList with
    | .ok u => Url.decoded u.path
    | .error _ => []
  match splitOnWord (dataPath ++ "/") (String.ofList path) with
  | _ :: rest => (dataPath ++ "/").intercalate rest
  | [] => ""

namespace Groups

def accepted (group : Json) : Reply :=
  .answered 200 none
    (Text.encodeUtf8 (Json.object [("data", .object [("data", group)])]).render.toList)

def unknown : Reply :=
  .answered 404 none (Text.encodeUtf8 "\x7b\"errors\":[]\x7d".toList)

def malformed : Reply := .answered 400 none []

def patchOf (body : String) : Option Json :=
  match Json.parse body.toList with
  | .ok j => j.field? "data"
  | .error _ => none

def patch (g : Groups) (group body : String) : Reply × Groups :=
  match patchOf body with
  | some data =>
    let next := ((g.lookup group).getD (.object [])).mergePatch data
    (accepted next, Json.put g group next)
  | none => (malformed, g)

def carry : Transport Groups := fun g q =>
  if q.method = "PATCH" then patch g q.group q.body
  else match g.lookup q.group with
    | some group => (accepted group, g)
    | none => (unknown, g)

end Groups

namespace Transport

variable {σ : Type}

def constant : Transport Reply := fun reply _ => (reply, reply)

/-- Some requests have an answer already; the others are carried. -/
def answering (told : Request → Option Reply) (carry : Transport σ) : Transport σ := fun s q =>
  match told q with
  | some reply => (reply, s)
  | none => carry s q

def recorded (carry : Transport σ) : Transport (σ × List Request) := fun s q =>
  let (reply, next) := carry s.1 q
  (reply, next, s.2 ++ [q])

end Transport

end ConfigKeeper.Vault
