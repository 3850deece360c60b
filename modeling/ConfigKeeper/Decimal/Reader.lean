import ConfigKeeper.Decimal.Double

namespace ConfigKeeper.Decimal

def isDigit (c : Char) : Bool := '0' ≤ c && c ≤ '9'

def naturalOf (digits : List Char) : Nat :=
  digits.foldl (fun n c => n * 10 + (c.toNat - 48)) 0

def millionths (fraction : List Char) : Nat :=
  let six := fraction.take 6
  naturalOf six * tenTo (6 - six.length)

def cutSign : List Char → Bool × List Char
  | '-' :: r => (true, r)
  | '+' :: r => (false, r)
  | r => (false, r)

def signedInt (negative : Bool) (n : Nat) : Int := if negative then -(n : Int) else n

def exponentPart (s : List Char) : Option (Int × Nat) :=
  match s with
  | e :: r =>
    if e = 'e' || e = 'E' then
      let (negative, rest) := cutSign r
      let digits := rest.takeWhile isDigit
      if digits.isEmpty then none
      else
        some (signedInt negative (naturalOf digits),
          1 + (r.length - rest.length) + digits.length)
    else none
  | [] => none

def ofParts (negative : Bool) (whole fraction : List Char) (exponent : Int) : Double :=
  Double.ofDecimal negative (naturalOf (whole ++ fraction)) (exponent - fraction.length)

def unsigned? (negative : Bool) (s : List Char) : Option Double :=
  let whole := s.takeWhile isDigit
  let afterWhole := s.drop whole.length
  let (fraction, rest) := match afterWhole with
    | '.' :: r => (r.takeWhile isDigit, r.dropWhile isDigit)
    | r => ([], r)
  if whole.isEmpty && fraction.isEmpty then none
  else match rest with
    | [] => some (ofParts negative whole fraction 0)
    | rest => match exponentPart rest with
      | some (e, size) =>
        if rest.length = size then some (ofParts negative whole fraction e)
        else none
      | none => none

def real? (s : List Char) : Option Double :=
  let (negative, body) := cutSign s
  let word := String.ofList (body.map Char.toLower)
  if word = "inf" || word = "infinity" then some (.infinite negative)
  else if word = "nan" then some .notANumber
  else unsigned? negative body

end ConfigKeeper.Decimal
