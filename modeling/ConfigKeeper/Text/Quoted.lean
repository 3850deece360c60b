import ConfigKeeper.Text.Hex
import ConfigKeeper.Text.Printable

/-!
Quoted texts as they appear inside messages. A text is put between single quotes, or between double
ones if it holds a single quote and no double one; what cannot be printed is written as an escape.
-/

namespace ConfigKeeper.Text

def quoteFor (s : List Char) : Char :=
  if s.contains '\'' && !s.contains '"' then '"' else '\''

def quotedChar (quote c : Char) : List Char :=
  if c = quote || c = '\\' then ['\\', c]
  else if c = '\n' then ['\\', 'n']
  else if c = '\r' then ['\\', 'r']
  else if c = '\t' then ['\\', 't']
  else if isPrintable c then [c]
  else codeEscape c

def quote (s : List Char) : List Char :=
  let q := quoteFor s
  q :: s.flatMap (quotedChar q) ++ [q]

end ConfigKeeper.Text

namespace ConfigKeeper

def quoted (s : String) : String := String.ofList (Text.quote s.toList)

end ConfigKeeper
