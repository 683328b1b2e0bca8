import Chatline.Binary64
import Chatline.Failure
import Chatline.Text.Blank
import Chatline.Text.Digit

namespace Chatline.Numeral
open Text

def ascii (s : List CodePoint) : List Char :=
  s.map fun
    | .surrogate _ => '?'
    | .char c      =>
      if c.toNat < 0x7f then c
      else if isBlank c then ' '
      else ((digitValue? c).map Nat.digitChar).getD '?'

def isSpace (c : Char) : Bool :=
  c = ' ' || ('\t' ≤ c && c ≤ '\r')

def isDigit (c : Char) : Bool :=
  '0' ≤ c && c ≤ '9'

def dropSign : List Char → List Char
  | '+' :: cs => cs
  | '-' :: cs => cs
  | cs        => cs

def isNegative (cs : List Char) : Bool :=
  cs.head? = some '-'

def isDigitOf (base : Nat) (c : Char) : Bool :=
  (hexValue? c).any (· < base)

def ofDigits (base : Nat) (cs : List Char) : Nat :=
  cs.foldl (fun n c => base * n + (hexValue? c).getD 0) 0

def baseMark? : (base : Nat) → Option Char
  | 2  => some 'b'
  | 8  => some 'o'
  | 16 => some 'x'
  | _  => none

def dropBaseMark (base : Nat) : List Char → List Char
  | '0' :: c :: cs => if baseMark? base = some c.toLower then cs else '0' :: c :: cs
  | cs             => cs

-- The integer that a numeral stands for. The limit on the number of digits is one for decimal numerals, and
-- goes before whatever is wrong behind the digits.
def integer (base : Nat) (s : List CodePoint) : Except Failure Int :=
  let cs := (ascii s).dropWhile isSpace
  let unsigned := dropBaseMark base (dropSign cs)
  let digits := unsigned.takeWhile (isDigitOf base)
  let rest := (unsigned.dropWhile (isDigitOf base)).dropWhile isSpace
  if base = 10 && digits.length > Failure.digitLimit then .error (.tooManyDigits (some digits.length))
  else if digits.isEmpty || !rest.isEmpty then .error (.notInteger base s)
  else
    let n : Int := ofDigits base digits
    .ok (if isNegative cs then -n else n)

-- The number that is closest to a natural number times a power of ten. Powers that are out of all
-- proportion are not computed. `length` is the number of digits.
def nearest (n length : Nat) (exponent : Int) : Binary64 :=
  if n = 0 || exponent + length < -400 then .ofRatio false 0 1
  else if exponent > 400 then .infinite false
  else
    let (num, den) := Binary64.scale 10 exponent (n, 1)
    .ofRatio false num den

def decimal? (cs : List Char) : Option Binary64 :=
  let whole := cs.takeWhile isDigit
  let rest := cs.dropWhile isDigit
  let fraction := if rest.head? = some '.' then rest.tail.takeWhile isDigit else []
  let rest := if rest.head? = some '.' then rest.tail.dropWhile isDigit else rest
  let digits := whole ++ fraction
  let value (exponent : Int) : Binary64 :=
    nearest (ofDigits 10 digits) digits.length (exponent - fraction.length)
  if digits.isEmpty then none
  else
    match rest with
    | []      => some (value 0)
    | e :: es =>
      let power := dropSign es
      if (e = 'e' || e = 'E') && !power.isEmpty && power.all isDigit then
        let n : Int := ofDigits 10 power
        some (value (if isNegative es then -n else n))
      else none

def float (s : List CodePoint) : Except Failure Binary64 :=
  let cs := (ascii s).dropWhile isSpace
  let cs := (cs.reverse.dropWhile isSpace).reverse
  let unsigned := dropSign cs
  let word := String.ofList (unsigned.map Char.toLower)
  let value? :=
    if ["inf", "infinity"].contains word then some (Binary64.infinite false)
    else if word = "nan" then some .nan
    else decimal? unsigned
  match value? with
  | some f => .ok (if isNegative cs then f.negate else f)
  | none   => .error (.notFloat s)

end Chatline.Numeral
