import ConfigKeeper.Toml.Lexeme
import ConfigKeeper.Toml.Nest

namespace ConfigKeeper.Toml

open Text

def orFail {α : Type} (c : Cursor) : Except Reason α → Except Fault α
  | .ok a => .ok a
  | .error reason => fail c reason

def stringValue (quote : Char) (c : Cursor) : Except Fault (Toml × Cursor) := do
  let (s, c) ←
    if c.startsWith [quote, quote, quote] then multiline quote c
    else if quote = '"' then basic c
    else literal c
  .ok (.string (String.ofList s), c)

def afterEquals (c : Cursor) : Except Fault Cursor :=
  if c.next? = some '=' then .ok (skipBlanks (c.drop 1)) else fail c .equals

mutual

def value : Nat → Cursor → Except Fault (Toml × Cursor)
  | 0, c => fail c .value
  | fuel + 1, c =>
    match c.rest with
    | '"' :: _ => stringValue '"' c
    | '\'' :: _ => stringValue '\'' c
    | '[' :: _ => do
      let c ← skipToNext (c.drop 1)
      if c.next? = some ']' then .ok (.array [], c.drop 1)
      else
        let (items, c) ← elements fuel [] c
        .ok (.array items, c)
    | '{' :: _ =>
      let c := skipBlanks (c.drop 1)
      if c.next? = some '}' then .ok (.table [], c.drop 1)
      else do
        let (entries, c) ← inlineEntries fuel [] [] c
        .ok (.table entries, c)
    | _ =>
      if c.startsWith ['t', 'r', 'u', 'e'] then .ok (.bool true, c.drop 4)
      else if c.startsWith ['f', 'a', 'l', 's', 'e'] then .ok (.bool false, c.drop 5)
      else scalar c

def elements : Nat → List Toml → Cursor → Except Fault (List Toml × Cursor)
  | 0, _, c => fail c .value
  | fuel + 1, done, c => do
    let (v, c) ← value fuel c
    let done := v :: done
    let c ← skipToNext c
    if c.next? = some ']' then .ok (done.reverse, c.drop 1)
    else if c.next? = some ',' then
      let c ← skipToNext (c.drop 1)
      if c.next? = some ']' then .ok (done.reverse, c.drop 1) else elements fuel done c
    else fail c .openArray

def inlineEntries : Nat → List Key → Entries → Cursor → Except Fault (Entries × Cursor)
  | 0, _, _, c => fail c .value
  | fuel + 1, frozen, done, c => do
    let (k, c) ← key c
    let (v, c) ← value fuel (← afterEquals c)
    let done ← orFail c (insertInline frozen k v done)
    let c := skipBlanks c
    if c.next? = some '}' then .ok (done, c.drop 1)
    else if c.next? = some ',' then
      let frozen := if v.isContainer then k :: frozen else frozen
      inlineEntries fuel frozen done (skipBlanks (c.drop 1))
    else fail c .openTable

end

def valueAt (c : Cursor) : Except Fault (Toml × Cursor) := value (2 * c.rest.length + 2) c

def tableHeader (d : Document) (c : Cursor) : Except Fault (Document × Cursor) := do
  let (k, c) ← key (skipBlanks (c.drop 1))
  let d ← orFail c (d.openTable k)
  if c.startsWith [']'] then .ok (d, c.drop 1) else fail c .tableEnd

def itemHeader (d : Document) (c : Cursor) : Except Fault (Document × Cursor) := do
  let (k, c) ← key (skipBlanks (c.drop 2))
  let d ← orFail c (d.openItem k)
  if c.startsWith [']', ']'] then .ok (d, c.drop 2) else fail c .arrayTableEnd

def pair (d : Document) (c : Cursor) : Except Fault (Document × Cursor) := do
  let (k, c) ← key c
  let (v, c) ← valueAt (← afterEquals c)
  let d ← orFail c (d.insert k v)
  .ok (d, c)

def statement (d : Document) (c : Cursor) : Except Fault (Document × Cursor) :=
  match c.next? with
  | some x =>
    if isKeyStart x then pair d c
    else if x = '[' then
      if c.startsWith ['[', '['] then itemHeader d c else tableHeader d c
    else if x = '#' then .ok (d, c)
    else fail c .statement
  | none => .ok (d, c)

def statements : Nat → Document → Cursor → Except Fault Document
  | 0, d, _ => .ok d
  | fuel + 1, d, c => do
    let c := skipBlanks c
    match c.next? with
    | none => .ok d
    | some '\n' => statements fuel d (c.drop 1)
    | some _ =>
      let (d, c) ← statement d c
      let c ← skipComment (skipBlanks c)
      match c.next? with
      | none => .ok d
      | some '\n' => statements fuel d (c.drop 1)
      | some _ => fail c .statementEnd

def parse (s : List Char) : Except Fault Entries :=
  (statements (s.length + 1) .empty (.start s)).map Document.root

end ConfigKeeper.Toml
