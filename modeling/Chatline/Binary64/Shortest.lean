import Chatline.Binary64

namespace Chatline.Binary64

structure Decimal where
  digits : List Char
  point  : Int
  deriving DecidableEq, Repr

def decimalPoint (num den : Nat) : Int :=
  let guess : Int := ((Nat.toDigits 10 num).length : Int) - (Nat.toDigits 10 den).length
  let (n, d) := scale 10 (-guess) (num, den)
  if n ≥ d then guess + 1 else guess

-- The fractions that bound the numbers that round to `m * 2 ^ e`, times four. The gap below the least
-- mantissa of full length is half as wide as the one above.
def bounds (m : Nat) (e : Int) : (Nat × Nat) × (Nat × Nat) :=
  let below := if m = leastFull && e > leastExponent then 1 else 2
  (scale 2 e (4 * m - below, 4), scale 2 e (4 * m + 2, 4))

def within (m : Nat) (e : Int) (num den : Nat) : Bool :=
  let ((n₁, d₁), (n₂, d₂)) := bounds m e
  if m % 2 = 0 then n₁ * den ≤ num * d₁ && num * d₂ ≤ n₂ * den
  else n₁ * den < num * d₁ && num * d₂ < n₂ * den

def decimalOf? (m : Nat) (e : Int) (count : Nat) : Option Decimal :=
  let (num, den) := scale 2 e (m, 1)
  let point := decimalPoint num den
  let place := point - count
  let (n, d) := scale 10 (-place) (num, den)
  let accept (k : Nat) : Option Nat :=
    let (kn, kd) := scale 10 place (k, 1)
    if within m e kn kd then some k else none
  let nearer := roundHalfEven n d
  let farther := if nearer = n / d then nearer + 1 else n / d
  (accept nearer <|> accept farther).map fun k =>
    let digits := Nat.toDigits 10 k
    { digits := (digits.reverse.dropWhile (· == '0')).reverse, point := place + digits.length }

-- The decimal with the fewest digits that rounds to a positive number. Seventeen digits always do.
def shortest (m : Nat) (e : Int) : Decimal :=
  ((List.range 17).firstM fun i => decimalOf? m e (i + 1)).getD { digits := ['0'], point := 1 }

end Chatline.Binary64
