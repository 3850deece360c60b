import ConfigKeeper.Text.Quoted

namespace ConfigKeeper

structure Day where
  year : Nat
  month : Nat
  day : Nat
deriving DecidableEq, Repr

structure Clock where
  hour : Nat
  minute : Nat
  second : Nat
  microsecond : Nat
deriving DecidableEq, Repr

/-- The offset of a moment is counted in minutes to the east. -/
inductive Moment
  | day (d : Day)
  | clock (c : Clock)
  | both (d : Day) (c : Clock) (offset : Option Int)
deriving DecidableEq, Repr

namespace Day

def isLeap (year : Nat) : Bool := year % 4 = 0 && (year % 100 != 0 || year % 400 = 0)

def daysIn (year month : Nat) : Nat :=
  if month = 2 then if isLeap year then 29 else 28
  else if [4, 6, 9, 11].contains month then 30
  else 31

def exists_ (d : Day) : Bool := 1 ≤ d.year && d.day ≤ daysIn d.year d.month

end Day

namespace Moment

def isReal : Moment → Bool
  | .day d | .both d _ _ => d.exists_
  | .clock _ => true

def padded (width n : Nat) : String :=
  let digits := toString n
  String.ofList (List.replicate (width - digits.length) '0') ++ digits

def dayText (d : Day) : String :=
  padded 4 d.year ++ "-" ++ padded 2 d.month ++ "-" ++ padded 2 d.day

def clockText (c : Clock) : String :=
  padded 2 c.hour ++ ":" ++ padded 2 c.minute ++ ":" ++ padded 2 c.second ++
    (if c.microsecond = 0 then "" else "." ++ padded 6 c.microsecond)

def offsetText (o : Int) : String :=
  (if o < 0 then "-" else "+") ++ padded 2 (o.natAbs / 60) ++ ":" ++ padded 2 (o.natAbs % 60)

def text : Moment → String
  | .day d => dayText d
  | .clock c => clockText c
  | .both d c o => dayText d ++ " " ++ clockText c ++ (o.map offsetText).getD ""

def clockParts (c : Clock) : List Nat :=
  [c.hour, c.minute] ++
    if c.microsecond != 0 then [c.second, c.microsecond]
    else if c.second != 0 then [c.second]
    else []

def offsetShown (o : Int) : String :=
  let days := o.fdiv 1440
  let seconds := o.fmod 1440 * 60
  let parts := (if days = 0 then [] else ["days=" ++ toString days]) ++
    (if seconds = 0 then [] else ["seconds=" ++ toString seconds])
  "datetime.timedelta(" ++ ", ".intercalate parts ++ ")"

def zoneText (o : Int) : String :=
  if o = 0 then "datetime.timezone.utc" else "datetime.timezone(" ++ offsetShown o ++ ")"

def shown : Moment → String
  | .day d => call "date" (numbers [d.year, d.month, d.day])
  | .clock c => call "time" (numbers (clockParts c))
  | .both d c o =>
    call "datetime" (numbers ([d.year, d.month, d.day] ++ clockParts c) ++
      (o.map fun o => ["tzinfo=" ++ zoneText o]).getD [])
where
  numbers (ns : List Nat) : List String := ns.map toString
  call (name : String) (parts : List String) : String :=
    "datetime." ++ name ++ "(" ++ ", ".intercalate parts ++ ")"

def dayFault? (d : Day) : Option String :=
  if d.year = 0 then some "year 0 is out of range"
  else if d.month < 1 || 12 < d.month then some "month must be in 1..12"
  else if d.day < 1 || Day.daysIn d.year d.month < d.day then some "day is out of range for month"
  else none

def clockFault? (c : Clock) : Option String :=
  if 23 < c.hour then some "hour must be in 0..23"
  else if 59 < c.minute then some "minute must be in 0..59"
  else if 59 < c.second then some "second must be in 0..59"
  else none

def offsetFault? (o : Int) : Option String :=
  if o.natAbs < 1440 then none
  else some ("offset must be a timedelta strictly between -timedelta(hours=24) and " ++
    "timedelta(hours=24), not " ++ offsetShown o ++ ".")

def fault? : Moment → Option String
  | .day d => dayFault? d
  | .clock c => clockFault? c
  | .both d c o => (o.bind offsetFault?).or ((dayFault? d).or (clockFault? c))

def typeName : Moment → String
  | .day _ => "date"
  | .clock _ => "time"
  | .both _ _ _ => "datetime"

end Moment

end ConfigKeeper
