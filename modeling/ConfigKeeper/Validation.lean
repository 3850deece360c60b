import ConfigKeeper.Decimal.Reader
import ConfigKeeper.Json.Writer
import ConfigKeeper.Text.Blank
import ConfigKeeper.Text.Split
import ConfigKeeper.Text.Utf8

/-!
Checking values against what a field of a record takes. A check converts where nothing is lost and
tells every field that does not fit.
-/

namespace ConfigKeeper

inductive LocationItem
  | field (name : String)
  | index (n : Nat)
deriving DecidableEq, Repr

def LocationItem.text : LocationItem → String
  | .field name => name
  | .index n => toString n

inductive Mismatch
  | missing
  | notString
  | notNumber
  | unreadableNumber
  | notInteger
  | unreadableInteger
  | oversizedInteger
  | fractional
  | notFinite
  | notGreater (bound : Int)
  | notAtLeast (bound : Int)
  | notList
  | notPath
  | unexpected
  | refused (reason : String)
deriving DecidableEq, Repr

namespace Mismatch

def kind : Mismatch → String
  | .missing => "missing"
  | .notString => "string_type"
  | .notNumber => "float_type"
  | .unreadableNumber => "float_parsing"
  | .notInteger => "int_type"
  | .unreadableInteger => "int_parsing"
  | .oversizedInteger => "int_parsing_size"
  | .fractional => "int_from_float"
  | .notFinite => "finite_number"
  | .notGreater _ => "greater_than"
  | .notAtLeast _ => "greater_than_equal"
  | .notList => "tuple_type"
  | .notPath => "path_type"
  | .unexpected => "extra_forbidden"
  | .refused _ => "value_error"

def message : Mismatch → String
  | .missing => "Field required"
  | .notString => "Input should be a valid string"
  | .notNumber => "Input should be a valid number"
  | .unreadableNumber => "Input should be a valid number, unable to parse string as a number"
  | .notInteger => "Input should be a valid integer"
  | .unreadableInteger => "Input should be a valid integer, unable to parse string as an integer"
  | .oversizedInteger => "Unable to parse input string as an integer, exceeded maximum size"
  | .fractional => "Input should be a valid integer, got a number with a fractional part"
  | .notFinite => "Input should be a finite number"
  | .notGreater bound => "Input should be greater than " ++ toString bound
  | .notAtLeast bound => "Input should be greater than or equal to " ++ toString bound
  | .notList => "Input should be a valid tuple"
  | .notPath => "Input is not a valid path for <class 'pathlib.Path'>"
  | .unexpected => "Extra inputs are not permitted"
  | .refused reason => "Value error, " ++ reason

end Mismatch

structure ShownInput where
  text : String
  typeName : String
deriving DecidableEq, Repr

def Json.typeName : Json → String
  | .null => "NoneType"
  | .bool _ => "bool"
  | .int _ => "int"
  | .float _ => "float"
  | .string _ => "str"
  | .array _ => "list"
  | .object _ => "dict"

def ShownInput.ofJson (v : Json) : ShownInput := ⟨v.shown, v.typeName⟩

structure Violation where
  location : List LocationItem
  mismatch : Mismatch
  input : ShownInput
deriving DecidableEq, Repr

namespace Violation

def fitting : Nat → List Char → List Char
  | _, [] => []
  | room, c :: r => if c.utf8Size ≤ room then c :: fitting (room - c.utf8Size) r else []

def shownLimit : Nat := 50
def shownFront : Nat := 25
def shownBack : Nat := 24

def shortened (s : String) : String :=
  let cs := s.toList
  if Text.byteLength cs ≤ shownLimit then s
  else
    String.ofList (fitting shownFront cs) ++ "..." ++
      String.ofList (fitting shownBack cs.reverse).reverse

def reference : String := "https://errors.pydantic.dev/2.14/v/"

def render (v : Violation) : String :=
  let place :=
    if v.location.isEmpty then "" else ".".intercalate (v.location.map LocationItem.text) ++ "\n"
  place ++ "  " ++ v.mismatch.message ++ " [type=" ++ v.mismatch.kind ++ ", input_value=" ++
    shortened v.input.text ++ ", input_type=" ++ v.input.typeName ++ "]\n" ++
    "    For further information visit " ++ reference ++ v.mismatch.kind

def headline (record : String) (vs : List Violation) : String :=
  toString vs.length ++ " validation error" ++ (if vs.length = 1 then "" else "s") ++
    " for " ++ record

def report (record : String) (vs : List Violation) : String :=
  "\n".intercalate (headline record vs :: vs.map render)

end Violation

abbrev Checked (α : Type) := Except (List Violation) α

namespace Checked

variable {α β : Type}

def violations : Checked α → List Violation
  | .ok _ => []
  | .error vs => vs

def fail (loc : List LocationItem) (m : Mismatch) (v : Json) : Checked α :=
  .error [⟨loc, m, .ofJson v⟩]

def each (f : Nat → Json → Checked α) : Nat → List Json → Checked (List α)
  | _, [] => .ok []
  | i, v :: vs =>
    match f i v, each f (i + 1) vs with
    | .ok a, .ok as => .ok (a :: as)
    | a, as => .error (violations a ++ violations as)

def string (loc : List LocationItem) : Json → Checked String
  | .string s => .ok s
  | v => fail loc .notString v

def optionalString (loc : List LocationItem) : Json → Checked (Option String)
  | .null => .ok none
  | v => (string loc v).map some

def strings (loc : List LocationItem) : Json → Checked (List String)
  | .array vs => each (fun i v => string (loc ++ [.index i]) v) 0 vs
  | v => fail loc .notList v

def path (loc : List LocationItem) : Json → Checked String
  | .string s => .ok s
  | v => fail loc .notPath v

def isNumberSpace (c : Char) : Bool := Text.isBlank c && !(0x1c ≤ c.toNat && c.toNat ≤ 0x1f)

def trimNumber (s : List Char) : List Char :=
  Text.dropEndWhile isNumberSpace (s.dropWhile isNumberSpace)

def withoutUnderscores (s : List Char) : Option (List Char) :=
  if s.head? = some '_' || s.getLast? = some '_' || Text.contains ['_', '_'] s ||
      !s.contains '_' then none
  else some (s.filter (· != '_'))

def numberText? (s : String) : Option Double :=
  match Decimal.real? (trimNumber s.toList) with
  | some x => some x
  | none => (withoutUnderscores s.toList).bind Decimal.real?

def number (loc : List LocationItem) : Json → Checked Double
  | .float x => .ok x
  | .int n => .ok (Double.ofInt n)
  | .bool b => .ok (Double.ofInt (if b then 1 else 0))
  | .string s => match numberText? s with
    | some x => .ok x
    | none => fail loc .unreadableNumber (.string s)
  | v => fail loc .notNumber v

def integerDigitLimit : Nat := 4300

inductive IntegerText
  | value (n : Int)
  | oversized
  | unreadable

def plainInteger (s : List Char) : IntegerText :=
  let (negative, digits) := match s with
    | '-' :: r => (true, r)
    | r => (false, r)
  if digits.isEmpty || !digits.all Decimal.isDigit then .unreadable
  else if digits.head? = some '0' && 1 < digits.length then .unreadable
  else if integerDigitLimit < digits.length then .oversized
  else .value (Decimal.signedInt negative (Decimal.naturalOf digits))

def dropLeadingZeros : List Char → Option (List Char)
  | '0' :: r =>
    match r.dropWhile fun c => c = '0' || c = '_' with
    | [] => some (('0' :: r).drop r.length)
    | '.' :: more => some (('0' :: r).drop (r.length - more.length - 1))
    | c :: more => if Decimal.isDigit c then some (c :: more) else none
  | c :: r => if Decimal.isDigit c || c = '-' then some (c :: r) else none
  | [] => none

def dropZeroFraction (s : List Char) : List Char :=
  let whole := s.takeWhile (· != '.')
  if (s.drop (whole.length + 1)).all (· = '0') then whole else s

def tidyInteger (s : List Char) : Option (List Char) :=
  let body := trimNumber s
  let unsigned := match body with
    | '+' :: '-' :: _ => none
    | '+' :: r => some r
    | r => some r
  (unsigned.bind dropLeadingZeros).bind fun digits =>
    let digits := dropZeroFraction digits
    match withoutUnderscores digits with
    | some r => some r
    | none => if digits.length = s.length then none else some digits

def integerText (s : String) : IntegerText :=
  match plainInteger s.toList with
  | .unreadable => match tidyInteger s.toList with
    | some r => match plainInteger r with
      | .value n => .value n
      | _ => .unreadable
    | none => .unreadable
  | found => found

def integer (loc : List LocationItem) : Json → Checked Int
  | .int n => .ok n
  | .bool b => .ok (if b then 1 else 0)
  | .float x => match x with
    | .finite _ _ _ => match x.toInt? with
      | some n => .ok n
      | none => fail loc .fractional (.float x)
    | x => fail loc .notFinite (.float x)
  | .string s => match integerText s with
    | .value n => .ok n
    | .oversized => fail loc .oversizedInteger (.string s)
    | .unreadable => fail loc .unreadableInteger (.string s)
  | v => fail loc .notInteger v

def required (members : List (String × Json)) (name : String)
    (check : List LocationItem → Json → Checked α) : Checked α :=
  match members.lookup name with
  | some v => check [.field name] v
  | none => .error [⟨[.field name], .missing, .ofJson (.object members)⟩]

def optional (members : List (String × Json)) (name : String) (default : α)
    (check : List LocationItem → Json → Checked α) : Checked α :=
  match members.lookup name with
  | some v => check [.field name] v
  | none => .ok default

def unexpected (members : List (String × Json)) (fields : List String) : List Violation :=
  (members.filter fun m => !fields.contains m.1).map fun m =>
    ⟨[.field m.1], .unexpected, .ofJson m.2⟩

end Checked

end ConfigKeeper
