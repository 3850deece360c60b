/-!
Scales: the powers of two and of ten that place the digits of a number.
-/

namespace ConfigKeeper.Decimal

def twoTo (n : Nat) : Nat := Nat.pow 2 n

def tenTo (n : Nat) : Nat := Nat.pow 10 n

end ConfigKeeper.Decimal
