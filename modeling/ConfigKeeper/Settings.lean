import ConfigKeeper.Problem

/-!
Settings: defaults, environment variables and explicit values, in rising priority.
-/

namespace ConfigKeeper

structure Settings where
  storeUrl : String
  token : Option String
  ns : String
  configPatterns : List String
  lintPatterns : List String
  excludePatterns : List String
  requestTimeout : Double
  contextLines : Nat
deriving DecidableEq, Repr

abbrev Environment := List (String × String)

namespace Settings

def recordName : String := "DevConfigSettings"

def urlField : String := "vault_api_url"
def tokenField : String := "vault_token"
def nsField : String := "annotation_namespace"
def configField : String := "config_patterns"
def lintField : String := "lint_patterns"
def excludeField : String := "exclude_patterns"
def timeoutField : String := "request_timeout"
def contextField : String := "context_lines"

def fields : List String :=
  [urlField, tokenField, nsField, configField, lintField, excludeField, timeoutField, contextField]

def default : Settings where
  storeUrl := "https://bunker.mindvalley.dev:8200"
  token := none
  ns := "wukong.mindvalley.dev"
  configPatterns := ["**/config/dev.exs", "**/.wukong.toml"]
  lintPatterns := ["**/config/**/*.ex", "**/config/**/*.exs"]
  excludePatterns := ["_build/", "deps/", "node_modules/", ".git/"]
  requestTimeout := Double.ofInt 30
  contextLines := 3

def urlSchemes : List String := ["http://", "https://"]

def hasUrlScheme (s : String) : Bool := urlSchemes.any fun w => Text.startsWith w.toList s.toList

def checkUrl (loc : List LocationItem) (v : Json) : Checked String := do
  let s ← Checked.string loc v
  let s' := trimmed s
  if hasUrlScheme s' then .ok (String.ofList (Text.dropEndWhile (· = '/') s'.toList))
  else Checked.fail loc (.refused ("vault_api_url must be an http(s) URL, got: " ++ s')) v

def checkNs (loc : List LocationItem) (v : Json) : Checked String := do
  let s ← Checked.string loc v
  if (trimmed s).isEmpty then Checked.fail loc (.refused "annotation_namespace cannot be empty") v
  else .ok (trimmed s)

def isPositive : Double → Bool
  | .finite negative m _ => !negative && m != 0
  | .infinite negative => !negative
  | .notANumber => false

def checkTimeout (loc : List LocationItem) (v : Json) : Checked Double := do
  let x ← Checked.number loc v
  if isPositive x then .ok x else Checked.fail loc (.notGreater 0) v

def checkContext (loc : List LocationItem) (v : Json) : Checked Nat := do
  let n ← Checked.integer loc v
  if 0 ≤ n then .ok n.toNat else Checked.fail loc (.notAtLeast 0) v

def ofMembers (ms : List (String × Json)) : Checked Settings :=
  let url := Checked.optional ms urlField default.storeUrl checkUrl
  let token := Checked.optional ms tokenField default.token Checked.optionalString
  let ns := Checked.optional ms nsField default.ns checkNs
  let config := Checked.optional ms configField default.configPatterns Checked.strings
  let lint := Checked.optional ms lintField default.lintPatterns Checked.strings
  let exclude := Checked.optional ms excludeField default.excludePatterns Checked.strings
  let timeout := Checked.optional ms timeoutField default.requestTimeout checkTimeout
  let context := Checked.optional ms contextField default.contextLines checkContext
  let extra := Checked.unexpected ms fields
  match url, token, ns, config, lint, exclude, timeout, context, extra with
  | .ok url, .ok token, .ok ns, .ok config, .ok lint, .ok exclude, .ok timeout, .ok context, [] =>
    .ok ⟨url, token, ns, config, lint, exclude, timeout, context⟩
  | _, _, _, _, _, _, _, _, _ =>
    .error (Checked.violations url ++ Checked.violations token ++ Checked.violations ns ++
      Checked.violations config ++ Checked.violations lint ++ Checked.violations exclude ++
      Checked.violations timeout ++ Checked.violations context ++ extra)

def toMembers (s : Settings) : List (String × Json) := [
  (urlField, .string s.storeUrl),
  (tokenField, match s.token with | some t => .string t | none => .null),
  (nsField, .string s.ns),
  (configField, .array (s.configPatterns.map .string)),
  (lintField, .array (s.lintPatterns.map .string)),
  (excludeField, .array (s.excludePatterns.map .string)),
  (timeoutField, .float s.requestTimeout),
  (contextField, .int s.contextLines)]

def lookUp (env : Environment) (name : String) : Option String :=
  match env.lookup name with
  | some v => if v.isEmpty then none else some v
  | none => none

def variableNames : List String :=
  ["WUKONG_DEV_VAULT_API_URL", "WUKONG_VAULT_TOKEN", "VAULT_TOKEN", "WUKONG_ANNOTATION_NAMESPACE"]

def environmentMembers (env : Environment) : List (String × Json) :=
  let token := (lookUp env "WUKONG_VAULT_TOKEN").or (lookUp env "VAULT_TOKEN")
  (((lookUp env "WUKONG_DEV_VAULT_API_URL").map fun v => (urlField, Json.string v)).toList ++
    (token.map fun v => (tokenField, Json.string v)).toList) ++
    ((lookUp env "WUKONG_ANNOTATION_NAMESPACE").map fun v => (nsField, Json.string v)).toList

def read (env : Environment) (properties : List (String × Json)) : Checked Settings :=
  ofMembers (properties.foldl (fun ms p => Json.put ms p.1 p.2) (environmentMembers env))

def invalid (vs : List Violation) : Problem :=
  .plain .settings ("Invalid wukong-devconfig settings: " ++ Violation.report recordName vs) none

def annotationKey (s : Settings) : String := s.ns ++ "/config-secrets-location"

end Settings

end ConfigKeeper
