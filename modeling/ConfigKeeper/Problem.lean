import ConfigKeeper.Project.Discovery
import ConfigKeeper.Validation
import ConfigKeeper.Wildcard.Pattern

/-!
What can go wrong, by cause. A problem is one that the program expects and has a remedy for; a
failure is anything that ends a command.
-/

namespace ConfigKeeper

inductive ProblemKind
  | general
  | settings
  | sourceRead
  | sourceParse
  | manifest
  | configNotFound
  | store
  | secretNotFound
  | permissionDenied
  | authenticationFailed
  | tokenMissing
  | connection
  | lint
deriving DecidableEq, Repr

inductive Problem
  | plain (kind : ProblemKind) (message : String) (hint : Option String)
  | invalidSecretPath (configPath annotation : String)
  | storeResponse (code : Int) (body : String)
deriving DecidableEq, Repr

namespace ProblemKind

def hint : ProblemKind → Option String
  | .manifest =>
    some "Check that the file is valid TOML and declares a top-level [[secrets]] array."
  | .configNotFound =>
    some "Run the command from a project containing config/dev.exs or .wukong.toml."
  | .permissionDenied => some "Ask the secret owner to grant your account access to this path."
  | .authenticationFailed => some "Log in to Vault again and export a fresh WUKONG_VAULT_TOKEN."
  | .tokenMissing => some "Set WUKONG_VAULT_TOKEN (or VAULT_TOKEN) in your environment."
  | .connection => some "Check your network connection and WUKONG_DEV_VAULT_API_URL."
  | _ => none

def isStore : ProblemKind → Bool
  | .store | .secretNotFound | .permissionDenied | .authenticationFailed | .tokenMissing
  | .connection => true
  | _ => false

end ProblemKind

namespace Problem

def configNotFound : Problem := .plain .configNotFound "No config files found!" none

def secretNotFound : Problem := .plain .secretNotFound "Secret not found." none

def permissionDenied : Problem := .plain .permissionDenied "Permission denied." none

def authenticationFailed : Problem :=
  .plain .authenticationFailed "Invalid credentials. Please try again." none

def tokenMissing : Problem := .plain .tokenMissing "API token not found." none

def message : Problem → String
  | .plain _ m _ => m
  | .invalidSecretPath path _ => "Invalid secret path in the config file: " ++ path
  | .storeResponse code body => "API Response Error (" ++ toString code ++ "): " ++ body

def hint : Problem → Option String
  | .plain kind _ own => match own with
    | some h => if h.isEmpty then kind.hint else some h
    | none => kind.hint
  | .invalidSecretPath path annotation =>
    some ("Please check the " ++ annotation ++ " in the config file: " ++ path)
  | .storeResponse _ _ => none

def isStore : Problem → Bool
  | .plain kind _ _ => kind.isStore
  | .invalidSecretPath _ _ => false
  | .storeResponse _ _ => true

def isSecretNotFound : Problem → Bool
  | .plain .secretNotFound _ _ => true
  | _ => false

def sourceRead (path : Path) (f : ReadFault) : Problem :=
  .plain .sourceRead ("Failed to read " ++ path.toString ++ ": " ++ f.message) none

def syntaxErrors : Problem := .plain .sourceParse "Source contains syntax errors" none

end Problem

/-- Anything that ends a command. `reported` is a failure made ready for the user; `unexpected`
carries the name and the text of a foreign error. -/
inductive Failure
  | problem (p : Problem)
  | reported (message : String) (command : Option String) (hint : Option String)
  | file (e : FileError)
  | pattern (f : Wildcard.PatternFault)
  | invalid (record : String) (violations : List Violation)
  | aborted
  | unexpected (name text : String)
deriving DecidableEq, Repr

def Wildcard.PatternFault.message : Wildcard.PatternFault → String
  | .empty => "Invalid git pattern"
  | .danglingEscape => "Invalid git pattern"
  | .backwardRange => "bad character range"

namespace Failure

def ofDiscovery : Discovery.Fault → Failure
  | .file e => .file e
  | .pattern f => .pattern f

def reportedMessage (message : String) (command : Option String) : String :=
  match command with
  | some c =>
    if c.isEmpty then message else "CLI command '" ++ c ++ "' failed: " ++ message
  | none => message

def message : Failure → String
  | .problem p => p.message
  | .reported m c _ => reportedMessage m c
  | .file e => e.message
  | .pattern f => f.message
  | .invalid record vs => Violation.report record vs
  | .aborted => ""
  | .unexpected _ text => text

def name : Failure → String
  | .problem (.plain kind _ _) => match kind with
    | .general => "DevConfigError"
    | .settings => "SettingsError"
    | .sourceRead => "SourceReadError"
    | .sourceParse => "SourceParseError"
    | .manifest => "ManifestError"
    | .configNotFound => "ConfigNotFoundError"
    | .store => "SecretStoreError"
    | .secretNotFound => "SecretNotFoundError"
    | .permissionDenied => "PermissionDeniedError"
    | .authenticationFailed => "AuthenticationFailedError"
    | .tokenMissing => "ApiTokenNotFoundError"
    | .connection => "SecretStoreConnectionError"
    | .lint => "LintError"
  | .problem (.invalidSecretPath _ _) => "InvalidSecretPathError"
  | .problem (.storeResponse _ _) => "SecretStoreResponseError"
  | .reported _ _ _ => "CLIError"
  | .file (.refused .missing _) => "FileNotFoundError"
  | .file (.refused .notDirectory _) => "NotADirectoryError"
  | .file (.refused .isDirectory _) => "IsADirectoryError"
  | .file (.refused .alreadyThere _) => "FileExistsError"
  | .file (.refused .nameTooLong _) => "OSError"
  | .file .nulInPath => "ValueError"
  | .pattern .backwardRange => "error"
  | .pattern _ => "GitIgnorePatternError"
  | .invalid _ _ => "ValidationError"
  | .aborted => "Abort"
  | .unexpected n _ => n

def wrap (f : Failure) (command : String) : Failure :=
  let m := if f.message.isEmpty then f.name else f.message
  let hint := match f with
    | .problem p => p.hint
    | _ => none
  .reported m (some command) hint

end Failure

end ConfigKeeper
