/-! Decimals as binary64 numbers. A decimal is rounded to the nearest binary64 number, a half
to the one with an even last place, and the question asked of it is which integer it is. -/

namespace DeclAtlas.Json

/-- A quotient rounded to the nearest integer, a half to the even one. -/
def roundDiv (p q : Nat) : Nat :=
  let n := p / q
  let twice := 2 * (p % q)
  if twice < q then n else if q < twice then n + 1 else n + n % 2

def scale (p q : Nat) (k : Int) : Nat × Nat :=
  if 0 ≤ k then (p * Nat.pow 2 k.toNat, q) else (p, q * Nat.pow 2 (-k).toNat)

inductive Whole where
  | integer (n : Int)
  | fractional
  | infinite
  deriving DecidableEq, Repr

/-- The exponent of the last place of the binary64 number next to `p / q`, which is not 0. -/
def lastPlace (p q : Nat) : Int :=
  let guess : Int := (p.log2 : Int) - q.log2 - 52
  let (a, b) := scale p q (-guess)
  max (if a < b * Nat.pow 2 52 then guess - 1 else guess) (-1074)

/-- The nearest binary64 number to `p / q`, as an integer. -/
def wholeOfFraction (p q : Nat) : Whole :=
  let k := lastPlace p q
  let (a, b) := scale p q (-k)
  let n := roundDiv a b
  if 0 ≤ k then
    let m := n * Nat.pow 2 k.toNat
    if Nat.pow 2 1024 ≤ m then .infinite else .integer m
  else if n % Nat.pow 2 (-k).toNat = 0 then .integer (n / Nat.pow 2 (-k).toNat : Nat)
  else .fractional

def Whole.negate : Whole → Whole
  | .integer n => .integer (-n)
  | w => w

def decimalDigits (n : Nat) : Nat := (Nat.toDigits 10 n).length

/-- `m * 10 ^ e` as a binary64 number, as an integer. Far outside the range of binary64 the
power of ten is not worked out. -/
def wholeOfDecimal (m e : Int) : Whole :=
  if m = 0 then .integer 0
  else if 310 < e then .infinite
  else if e < -400 - decimalDigits m.natAbs then .integer 0
  else
    let w := if 0 ≤ e then wholeOfFraction (m.natAbs * Nat.pow 10 e.toNat) 1
      else wholeOfFraction m.natAbs (Nat.pow 10 (-e).toNat)
    if m < 0 then w.negate else w

end DeclAtlas.Json
