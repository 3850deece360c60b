import ConfigKeeper.Calendar.Moment
import ConfigKeeper.Decimal.Reader

namespace ConfigKeeper.Toml

open Decimal

def twoDigits? : List Char → Option (Nat × List Char)
  | a :: b :: r => if isDigit a && isDigit b then some (naturalOf [a, b], r) else none
  | _ => none

def fourDigits? : List Char → Option (Nat × List Char)
  | a :: b :: c :: d :: r =>
    if [a, b, c, d].all isDigit then some (naturalOf [a, b, c, d], r) else none
  | _ => none

def within? (low high : Nat) : Option (Nat × List Char) → Option (Nat × List Char)
  | some (n, r) => if low ≤ n && n ≤ high then some (n, r) else none
  | none => none

def after? (mark : Char) : List Char → Option (List Char)
  | c :: r => if c = mark then some r else none
  | [] => none

def dayAt? (s : List Char) : Option (Day × List Char) := do
  let (y, r) ← fourDigits? s
  let (m, r) ← within? 1 12 (twoDigits? (← after? '-' r))
  let (d, r) ← within? 1 31 (twoDigits? (← after? '-' r))
  pure (⟨y, m, d⟩, r)

def clockAt? (s : List Char) : Option (Clock × List Char) := do
  let (hour, r) ← within? 0 23 (twoDigits? s)
  let (minute, r) ← within? 0 59 (twoDigits? (← after? ':' r))
  let (second, r) ← within? 0 59 (twoDigits? (← after? ':' r))
  let digits := match r with
    | '.' :: more => more.takeWhile isDigit
    | _ => []
  if digits.isEmpty then pure (⟨hour, minute, second, 0⟩, r)
  else pure (⟨hour, minute, second, millionths digits⟩, r.drop (digits.length + 1))

def signedOffset? (negative : Bool) (s : List Char) : Option (Int × List Char) := do
  let (hours, r) ← within? 0 23 (twoDigits? s)
  let (minutes, r) ← within? 0 59 (twoDigits? (← after? ':' r))
  pure (signedInt negative (hours * 60 + minutes), r)

def zoneAt (s : List Char) : Option Int × List Char :=
  let found := match s with
    | '+' :: r => signedOffset? false r
    | '-' :: r => signedOffset? true r
    | _ => none
  match found, s with
  | some (o, r), _ => (some o, r)
  | none, 'Z' :: r => (some 0, r)
  | none, 'z' :: r => (some 0, r)
  | none, s => (none, s)

def momentOn (d : Day) (s : List Char) : Moment × List Char :=
  let time := match s with
    | c :: r => if c = 'T' || c = 't' || c = ' ' then clockAt? r else none
    | [] => none
  match time with
  | some (c, r) => let (o, r) := zoneAt r; (.both d c o, r)
  | none => (.day d, s)

def momentAt? (s : List Char) : Option (Moment × List Char) :=
  match dayAt? s with
  | some (d, r) => some (momentOn d r)
  | none => (clockAt? s).map fun (c, r) => (.clock c, r)

end ConfigKeeper.Toml
