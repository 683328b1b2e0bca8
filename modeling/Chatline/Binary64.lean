namespace Chatline

-- A floating point number of 64 bits. A finite number is `mantissa * 2 ^ exponent`, where the mantissa
-- has at most 53 bits, and fewer than 53 only if the exponent is the least one.
inductive Binary64
  | finite (negative : Bool) (mantissa : Nat) (exponent : Int)
  | infinite (negative : Bool)
  | nan
  deriving DecidableEq, Repr

namespace Binary64

def precision : Nat := 53

def leastFull : Nat := Nat.pow 2 (precision - 1)

def leastExponent : Int := -1074
def greatestExponent : Int := 971

def scale (base : Nat) (power : Int) (fraction : Nat × Nat) : Nat × Nat :=
  if power ≥ 0 then (fraction.1 * base.pow power.toNat, fraction.2)
  else (fraction.1, fraction.2 * base.pow (-power).toNat)

def roundHalfEven (num den : Nat) : Nat :=
  let q := num / den
  let r := num % den
  if 2 * r < den then q else if 2 * r > den then q + 1 else if q % 2 = 0 then q else q + 1

def ofRatio (negative : Bool) (num den : Nat) : Binary64 :=
  if num = 0 then finite negative 0 leastExponent
  else
    -- The exponent at which the fraction has 53 digits before the point is this one or the next lower.
    let guess : Int := (num.log2 : Int) - den.log2 - (precision - 1 : Nat)
    let (n, d) := scale 2 (-guess) (num, den)
    let exponent := max leastExponent (if n < leastFull * d then guess - 1 else guess)
    let (n, d) := scale 2 (-exponent) (num, den)
    let m := roundHalfEven n d
    let (m, exponent) := if m = 2 * leastFull then (leastFull, exponent + 1) else (m, exponent)
    if exponent > greatestExponent then infinite negative else finite negative m exponent

def ofNat (n : Nat) : Binary64 :=
  ofRatio false n 1

def negate : Binary64 → Binary64
  | finite negative m e => finite (!negative) m e
  | infinite negative   => infinite (!negative)
  | nan                 => nan

def ratio? : Binary64 → Option (Bool × Nat × Nat)
  | finite negative m e => some (negative, scale 2 e (m, 1))
  | _                   => none

def add (a b : Binary64) : Binary64 :=
  match a.ratio?, b.ratio? with
  | some (s₁, n₁, d₁), some (s₂, n₂, d₂) =>
    let x := n₁ * d₂
    let y := n₂ * d₁
    if s₁ = s₂ then ofRatio s₁ (x + y) (d₁ * d₂)
    else if x > y then ofRatio s₁ (x - y) (d₁ * d₂)
    else if x < y then ofRatio s₂ (y - x) (d₁ * d₂)
    else ofRatio false 0 1
  | none, some _ => a
  | some _, none => b
  | none, none   => if a = b then a else nan

def scaleBy (a : Binary64) (factor : Binary64) : Binary64 :=
  match a.ratio?, factor.ratio? with
  | some (s₁, n₁, d₁), some (s₂, n₂, d₂) => ofRatio (s₁ != s₂) (n₁ * n₂) (d₁ * d₂)
  | some (s₁, n₁, _), none               => if n₁ = 0 then nan else if s₁ then factor.negate else factor
  | none, _                              => a

-- Numbers are equal if their values are. So both zeros are equal, and so is a number that is an integer
-- to that integer. The undefined number counts as equal to itself.
def sameValue (a b : Binary64) : Bool :=
  match a, b with
  | finite s₁ m₁ e₁, finite s₂ m₂ e₂ => m₁ = m₂ && (m₁ = 0 || (s₁ = s₂ && e₁ = e₂))
  | _, _                             => a = b

def isInteger (a : Binary64) (i : Int) : Bool :=
  match a.ratio? with
  | some (negative, n, d) => n = i.natAbs * d && (n = 0 || negative = (i < 0))
  | none                  => false

end Binary64
end Chatline
