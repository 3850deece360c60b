import ConfigKeeper.Decimal.Scale

/-!
Numbers of 53 binary digits, in exact arithmetic: a decimal rounds to the nearest of them, a half to
the even neighbour, and a number is written with the fewest decimal digits that read back as it.
-/

namespace ConfigKeeper

/-- A finite number is `significand * 2 ^ exponent`. -/
inductive Double
  | finite (negative : Bool) (significand : Nat) (exponent : Int)
  | infinite (negative : Bool)
  | notANumber
deriving DecidableEq, Repr

open Decimal

namespace Double

def precision : Nat := 53

def leastExponent : Int := -1074

def greatestExponent : Int := 971

def zero (negative : Bool) : Double := .finite negative 0 0

def roundDiv (num den : Nat) : Nat :=
  let q := num / den
  let twice := 2 * (num % den)
  if twice < den then q
  else if den < twice then q + 1
  else q + q % 2

def scaled (num den : Nat) (e : Int) : Nat × Nat :=
  (num * twoTo (-e).toNat, den * twoTo e.toNat)

def ofRatio (negative : Bool) (num den : Nat) : Double :=
  if num = 0 || den = 0 then zero negative
  else
    let guess : Int := (num.log2 : Int) - (den.log2 : Int) - precision
    let (n, d) := scaled num den guess
    let exact := if n / d < twoTo precision then guess else guess + 1
    let e := max exact leastExponent
    let (n, d) := scaled num den e
    let m := roundDiv n d
    let (m, e) := if m = twoTo precision then (twoTo (precision - 1), e + 1) else (m, e)
    if greatestExponent < e then .infinite negative
    else if m = 0 then zero negative
    else .finite negative m e

def digitCountAux : Nat → Nat → Nat
  | 0, _ => 0
  | fuel + 1, n => if n < 10 then 1 else 1 + digitCountAux fuel (n / 10)

def digitCount (n : Nat) : Nat := digitCountAux (n.log2 + 1) n

def decimalReach : Int := 400

def ofDecimal (negative : Bool) (digits : Nat) (exponent : Int) : Double :=
  let size := exponent + digitCount digits
  if digits = 0 || size < -decimalReach then zero negative
  else if decimalReach < size then .infinite negative
  else ofRatio negative (digits * tenTo exponent.toNat) (tenTo (-exponent).toNat)

def ofInt (n : Int) : Double := ofRatio (n < 0) n.natAbs 1

def toInt? : Double → Option Int
  | .finite negative m e =>
    let (n, d) := (m * twoTo e.toNat, twoTo (-e).toNat)
    if n % d = 0 then some (if negative then -(n / d : Nat) else (n / d : Nat)) else none
  | _ => none

def isZero : Double → Bool
  | .finite _ m _ => m = 0
  | _ => false

/-- The reals that round to a positive number: its value and the bounds, in quarters of the last
binary digit. -/
structure Interval where
  low : Nat
  value : Nat
  high : Nat
  closed : Bool

def interval (m : Nat) (e : Int) : Interval where
  low := if m = twoTo (precision - 1) && leastExponent < e then 4 * m - 1 else 4 * m - 2
  value := 4 * m
  high := 4 * m + 2
  closed := m % 2 = 0

def Interval.holds (i : Interval) (u : Int) (digits : Nat) (p : Int) : Bool :=
  let x := digits * tenTo p.toNat * twoTo (-u).toNat
  let scale := twoTo u.toNat * tenTo (-p).toNat
  if i.closed then i.low * scale ≤ x && x ≤ i.high * scale
  else i.low * scale < x && x < i.high * scale

def leadingPlace (m : Nat) (e : Int) : Int :=
  let guess : Int := ((m.log2 : Int) + e) * 1233 / 4096 - 1
  let below (k : Int) : Bool :=
    m * twoTo e.toNat * tenTo (-k).toNat < tenTo k.toNat * twoTo (-e).toNat
  match (List.range 6).find? fun (i : Nat) => below (guess + i) with
  | some i => guess + i
  | none => guess + 6

def neighbour? (i : Interval) (u place : Int) (count : Nat) : Option (Nat × Int) :=
  let p := place - count
  let num := i.value * twoTo u.toNat * tenTo (-p).toNat
  let den := tenTo p.toNat * twoTo (-u).toNat
  let down := num / den
  let near := roundDiv num den
  let far := if near = down then down + 1 else down
  if i.holds u near p then some (near, p)
  else if i.holds u far p then some (far, p)
  else none

def shortest (m : Nat) (e : Int) : Nat × Int :=
  let i := interval m e
  let place := leadingPlace m e
  match (List.range 17).findSome? fun n => neighbour? i (e - 2) place (n + 1) with
  | some d => d
  | none => (m, e)

def decimalDigits (n : Nat) : List Char := (toString n).toList

def firstPositional : Int := -3

def lastPositional : Int := 16

def written (digits : Nat) (p : Int) : String :=
  let ds := decimalDigits digits
  let place : Int := p + ds.length
  let ds := (ds.reverse.dropWhile (· = '0')).reverse
  if firstPositional ≤ place && place ≤ lastPositional then
    if place ≤ 0 then "0." ++ String.ofList (List.replicate (-place).toNat '0' ++ ds)
    else
      let n := place.toNat
      let whole := ds.take n ++ List.replicate (n - ds.length) '0'
      let rest := if ds.length ≤ n then ['0'] else ds.drop n
      String.ofList (whole ++ '.' :: rest)
  else
    let e := place - 1
    let mark := if e < 0 then "e-" else "e+"
    let size := toString e.natAbs
    let size := if size.length < 2 then "0" ++ size else size
    let rest := if ds.length ≤ 1 then [] else '.' :: ds.drop 1
    String.ofList (ds.take 1 ++ rest) ++ mark ++ size

def toText : Double → String
  | .finite negative m e =>
    (if negative then "-" else "") ++
      (if m = 0 then "0.0" else let (d, p) := shortest m e; written d p)
  | .infinite negative => if negative then "-inf" else "inf"
  | .notANumber => "nan"

end Double

end ConfigKeeper
