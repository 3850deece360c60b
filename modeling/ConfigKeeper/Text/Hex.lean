namespace ConfigKeeper.Text

def hexDigit (n : Nat) : Char :=
  if n < 10 then Char.ofNat (48 + n) else Char.ofNat (87 + n)

def hexFixed : Nat → Nat → List Char
  | 0, _ => []
  | width + 1, n => hexFixed width (n / 16) ++ [hexDigit (n % 16)]

def hexValue? (c : Char) : Option Nat :=
  if '0' ≤ c && c ≤ '9' then some (c.toNat - 48)
  else if 'a' ≤ c && c ≤ 'f' then some (c.toNat - 87)
  else if 'A' ≤ c && c ≤ 'F' then some (c.toNat - 55)
  else none

def codeEscape (c : Char) : List Char :=
  if c.toNat < 0x100 then '\\' :: 'x' :: hexFixed 2 c.toNat
  else if c.toNat < 0x10000 then '\\' :: 'u' :: hexFixed 4 c.toNat
  else '\\' :: 'U' :: hexFixed 8 c.toNat

def isHexDigit (c : Char) : Bool := (hexValue? c).isSome

theorem hexValue?_hexDigit (n : Fin 16) : hexValue? (hexDigit n) = some n.val := by
  revert n
  decide

theorem hexFixed_length (width n : Nat) : (hexFixed width n).length = width := by
  induction width generalizing n with
  | zero => rfl
  | succ width ih => simp [hexFixed, ih]

end ConfigKeeper.Text
