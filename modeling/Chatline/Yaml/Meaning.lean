import Chatline.Text.Base64
import Chatline.Yaml.Plain

-- The values of scalars, by their tags.
namespace Chatline.Yaml.Meaning

def truth? (word : String) : Option Bool :=
  if ["yes", "true", "on"].contains word then some true
  else if ["no", "false", "off"].contains word then some false
  else none

def truth (s : List Text.CodePoint) : Except Failure Bool :=
  let word := Text.lowerPoints s
  match (word.mapM Text.CodePoint.char?).bind fun cs => truth? (.ofList cs) with
  | some b => .ok b
  | none   => .error (.unknownWord word)

def signed (s : List Text.CodePoint) : Except Failure (Bool × List Text.CodePoint) :=
  match s.filter (· ≠ .char '_') with
  | []             => .error .emptyNumeral
  | .char '-' :: ps => .ok (true, ps)
  | .char '+' :: ps => .ok (false, ps)
  | ps             => .ok (false, ps)

-- The value of sexagesimal places, the last one first.
def ofPlaces (ns : List Int) : Int :=
  ns.foldr (fun n rest => n + 60 * rest) 0

def unsignedInteger (ps : List Text.CodePoint) : Except Failure Int :=
  match ps with
  | []                          => .error .emptyNumeral
  | [.char '0']                 => .ok 0
  | .char '0' :: .char 'b' :: ps => Numeral.integer 2 ps
  | .char '0' :: .char 'x' :: ps => Numeral.integer 16 ps
  | .char '0' :: _              => Numeral.integer 8 ps
  | _                           =>
    if ps.contains (.char ':') then do
      let places ← (Plain.splitAt (.char ':') ps).mapM (Numeral.integer 10)
      return ofPlaces places.reverse
    else Numeral.integer 10 ps

def integer (s : List Text.CodePoint) : Except Failure Int := do
  let (isNegative, ps) ← signed s
  let n ← unsignedInteger ps
  return if isNegative then -n else n

def addPlaces : (sum : Binary64) → (weight : Nat) → List Binary64 → Except Failure Binary64
  | sum, _,      []      => .ok sum
  | sum, weight, f :: fs =>
    match Binary64.ofNat weight with
    | .infinite _ => .error (.overflow "int too large to convert to float")
    | w           => addPlaces (sum.add (f.scaleBy w)) (60 * weight) fs

def float (s : List Text.CodePoint) : Except Failure Binary64 := do
  let (isNegative, ps) ← signed (Text.lowerPoints (s.filter (· ≠ .char '_')))
  let f ←
    if ps = Text.points ".inf" then pure (Binary64.infinite false)
    else if ps = Text.points ".nan" then pure Binary64.nan
    else if ps.contains (.char ':') then do
      let places ← (Plain.splitAt (.char ':') ps).mapM Numeral.float
      addPlaces (.ofNat 0) 1 places.reverse
    else Numeral.float ps
  return if isNegative then f.negate else f

def isCommonUndefined (s : List Text.CodePoint) : Bool :=
  match signed (Text.lowerPoints s) with
  | .ok (_, ps) => ps == Text.points ".nan"
  | .error _    => false

def microseconds (fraction : List Char) : Nat :=
  let digits := fraction.take 6
  (String.ofList (digits ++ List.replicate (6 - digits.length) '0')).toNat?.getD 0

def timestamp (s : List Text.CodePoint) : Except Failure Datum := do
  match (s.mapM Text.CodePoint.char?).bind fun cs => Plain.timestamp? (Plain.dropBreak cs) with
  | none   => throw .notTimestamp
  | some t =>
    match t.time with
    | none                        => return .date (← Date.of t.year t.month t.day)
    | some (hour, minute, second) =>
      let offset ← (t.zone.map (60 * ·)).mapM Moment.checkOffset
      let date ← Date.of t.year t.month t.day
      return .moment (← Moment.of date hour minute second (microseconds t.fraction) offset)

def binary (s : List Text.CodePoint) : Except Fault Datum :=
  let bytes? := do
    let cs ← s.mapM Text.CodePoint.char?
    if cs.all (·.toNat < 128) then Text.Base64.decode? cs else none
  match bytes? with
  | some bs => .ok (.bytes bs)
  | none    => .error .malformed

end Chatline.Yaml.Meaning
