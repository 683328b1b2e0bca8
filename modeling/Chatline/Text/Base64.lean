import Chatline.Text.Hex

namespace Chatline.Text.Base64

def value? (c : Char) : Option Nat :=
  if 'A' ≤ c && c ≤ 'Z' then some (c.toNat - 'A'.toNat)
  else if 'a' ≤ c && c ≤ 'z' then some (c.toNat - 'a'.toNat + 26)
  else if '0' ≤ c && c ≤ '9' then some (c.toNat - '0'.toNat + 52)
  else if c = '+' then some 62
  else if c = '/' then some 63
  else none

-- The six-bit values of base 64, up to the padding that completes them. All other characters are
-- skipped. `filled` counts the values since the last complete group of four, `pads` the padding.
def sextets? (filled pads : Nat) : List Char → Option (List Nat)
  | []      => if filled = 0 then some [] else none
  | c :: cs =>
    if c = '=' then
      if filled ≥ 2 && filled + pads + 1 ≥ 4 then some []
      else sextets? filled (if filled ≥ 2 then pads + 1 else pads) cs
    else
      match value? c with
      | none   => sextets? filled pads cs
      | some n => (sextets? ((filled + 1) % 4) 0 cs).map (n :: ·)

def octets : List Nat → List UInt8
  | a :: b :: c :: d :: ns =>
    let n := ((a * 64 + b) * 64 + c) * 64 + d
    (n / 65536).toUInt8 :: (n / 256 % 256).toUInt8 :: (n % 256).toUInt8 :: octets ns
  | [a, b, c]              =>
    let n := (a * 64 + b) * 64 + c
    [(n / 1024).toUInt8, (n / 4 % 256).toUInt8]
  | [a, b]                 => [((a * 64 + b) / 16).toUInt8]
  | _                      => []

def decode? (cs : List Char) : Option (List UInt8) :=
  (sextets? 0 0 cs).map octets

end Chatline.Text.Base64
