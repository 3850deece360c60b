namespace ConfigKeeper.Diff

abbrev Range := Int × Int

def Range.le (p q : Range) : Bool := p.1 < q.1 || (p.1 = q.1 && p.2 ≤ q.2)

/-- Joins each range of a sorted list with those that it overlaps or touches; `r` is the one at
hand. -/
def coalesce : Range → List Range → List Range
  | r, [] => [r]
  | r, s :: rest =>
    if s.1 ≤ r.2 then coalesce (r.1, max r.2 s.2) rest else r :: coalesce s rest

def mergeRanges (ranges : List Range) : List Range :=
  match (ranges.filter fun r => r.1 < r.2).mergeSort Range.le with
  | [] => []
  | r :: rest => coalesce r rest

end ConfigKeeper.Diff
