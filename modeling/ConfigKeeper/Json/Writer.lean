import ConfigKeeper.Json.Basic
import ConfigKeeper.Text.Quoted

/-!
Writing JSON values: as JSON in ASCII, and as the plain text that a value shows in a message.
-/

namespace ConfigKeeper.Json

def unitEscape (n : Nat) : List Char := '\\' :: 'u' :: Text.hexFixed 4 n

def escape (c : Char) : List Char :=
  if c = '"' then ['\\', '"']
  else if c = '\\' then ['\\', '\\']
  else if c = '\n' then ['\\', 'n']
  else if c = '\r' then ['\\', 'r']
  else if c = '\t' then ['\\', 't']
  else if c = '\x08' then ['\\', 'b']
  else if c = '\x0c' then ['\\', 'f']
  else if 0x20 ≤ c.toNat && c.toNat < 0x7f then [c]
  else if c.toNat < 0x10000 then unitEscape c.toNat
  else
    let n := c.toNat - 0x10000
    unitEscape (0xd800 + n / 0x400) ++ unitEscape (0xdc00 + n % 0x400)

def stringText (s : String) : String :=
  String.ofList ('"' :: s.toList.flatMap escape ++ ['"'])

def floatText : Double → String
  | .notANumber => "NaN"
  | .infinite negative => if negative then "-Infinity" else "Infinity"
  | x => x.toText

mutual

def render : Json → String
  | .null => "null"
  | .bool b => if b then "true" else "false"
  | .int n => toString n
  | .float x => floatText x
  | .string s => stringText s
  | .array items => "[" ++ ", ".intercalate (renderAll items) ++ "]"
  | .object members => "\x7b" ++ ", ".intercalate (renderMembers members) ++ "\x7d"

def renderAll : List Json → List String
  | [] => []
  | v :: vs => render v :: renderAll vs

def renderMembers : List (String × Json) → List String
  | [] => []
  | (name, v) :: ms => (stringText name ++ ": " ++ render v) :: renderMembers ms

end

mutual

def shown : Json → String
  | .null => "None"
  | .bool b => if b then "True" else "False"
  | .int n => toString n
  | .float x => x.toText
  | .string s => quoted s
  | .array items => "[" ++ ", ".intercalate (shownAll items) ++ "]"
  | .object members => "\x7b" ++ ", ".intercalate (shownMembers members) ++ "\x7d"

def shownAll : List Json → List String
  | [] => []
  | v :: vs => shown v :: shownAll vs

def shownMembers : List (String × Json) → List String
  | [] => []
  | (name, v) :: ms => (quoted name ++ ": " ++ shown v) :: shownMembers ms

end

def plainText : Json → String
  | .string s => s
  | v => v.shown

end ConfigKeeper.Json
