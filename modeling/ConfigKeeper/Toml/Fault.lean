import ConfigKeeper.Text.Cursor
import ConfigKeeper.Text.Quoted
import ConfigKeeper.Toml.Basic

namespace ConfigKeeper.Toml

abbrev Key := List String

inductive Reason
  | value
  | moment
  | statement
  | statementEnd
  | equals
  | tableEnd
  | arrayTableEnd
  | keyPart
  | closing (word : String)
  | illegal (c : Char)
  | invalid (c : Char)
  | unterminated
  | escape
  | hexadecimal
  | surrogate
  | openArray
  | openTable
  | declaredTwice (key : Key)
  | immutable (key : Key)
  | redefined (key : Key)
  | overwritten
  | duplicate (name : String)
  | fewerDigits (count : Nat)
deriving DecidableEq, Repr

structure Fault where
  reason : Reason
  position : Nat
deriving DecidableEq, Repr

def keyText : Key → String
  | [name] => "(" ++ quoted name ++ ",)"
  | names => "(" ++ ", ".intercalate (names.map quoted) ++ ")"

def digitLimit : Nat := 4300

def quotedCharacter (c : Char) : String := quoted (String.singleton c)

def Reason.message : Reason → String
  | .value => "Invalid value"
  | .moment => "Invalid date or datetime"
  | .statement => "Invalid statement"
  | .statementEnd => "Expected newline or end of document after a statement"
  | .equals => "Expected '=' after a key in a key/value pair"
  | .tableEnd => "Expected ']' at the end of a table declaration"
  | .arrayTableEnd => "Expected ']]' at the end of an array declaration"
  | .keyPart => "Invalid initial character for a key part"
  | .closing word => "Expected " ++ quoted word
  | .illegal c => "Illegal character " ++ quotedCharacter c
  | .invalid c => "Found invalid character " ++ quotedCharacter c
  | .unterminated => "Unterminated string"
  | .escape => "Unescaped '\\' in a string"
  | .hexadecimal => "Invalid hex value"
  | .surrogate => "Escaped character is not a Unicode scalar value"
  | .openArray => "Unclosed array"
  | .openTable => "Unclosed inline table"
  | .declaredTwice key => "Cannot declare " ++ keyText key ++ " twice"
  | .immutable key => "Cannot mutate immutable namespace " ++ keyText key
  | .redefined key => "Cannot redefine namespace " ++ keyText key
  | .overwritten => "Cannot overwrite a value"
  | .duplicate name => "Duplicate inline table key " ++ quoted name
  | .fewerDigits count =>
    "Exceeds the limit (" ++ toString digitLimit ++
      " digits) for integer string conversion: value has " ++ toString count ++
      " digits; use sys.set_int_max_str_digits() to increase the limit"

def placeText (s : List Char) (position : Nat) : String :=
  if s.length ≤ position then "end of document"
  else
    "line " ++ toString (Text.lineAt s position) ++ ", column " ++
      toString (Text.columnAt s position)

def Fault.message (f : Fault) (s : List Char) : String :=
  f.reason.message ++ " (at " ++ placeText s f.position ++ ")"

def failAt {α : Type} (position : Nat) (reason : Reason) : Except Fault α :=
  .error ⟨reason, position⟩

def fail {α : Type} (c : Text.Cursor) (reason : Reason) : Except Fault α := failAt c.position reason

end ConfigKeeper.Toml
