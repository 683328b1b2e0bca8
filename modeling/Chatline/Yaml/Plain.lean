import Chatline.Datum
import Chatline.Numeral
import Chatline.Text.Lower
import Chatline.Yaml.Fault

namespace Chatline.Yaml

inductive Tag
  | null
  | bool
  | int
  | float
  | timestamp
  | binary
  | text
  | list
  | map
  | set
  | orderedMap
  | pairs
  | merge
  | value
  | other
  deriving DecidableEq, Repr

namespace Tag

def space : String := "tag:yaml.org,2002:"

def ofUri (uri : String) : Tag :=
  let names : List (String × Tag) :=
    [("null", null), ("bool", bool), ("int", int), ("float", float), ("timestamp", timestamp),
     ("binary", binary), ("str", text), ("seq", list), ("map", map), ("set", set), ("omap", orderedMap),
     ("pairs", pairs), ("merge", merge), ("value", value)]
  ((names.find? fun (name, _) => space ++ name == uri).map (·.2)).getD other

end Tag

namespace Plain

open Numeral (isDigit dropSign)

def isDigitOrBar (c : Char) : Bool := isDigit c || c = '_'

def splitAt {α : Type} [BEq α] (separator : α) (cs : List α) : List (List α) :=
  cs.foldr (fun c parts =>
    if c == separator then [] :: parts
    else match parts with
      | []            => [[c]]
      | part :: parts => (c :: part) :: parts) [[]]

def isNull (s : String) : Bool :=
  ["~", "null", "Null", "NULL"].contains s

def isBool (s : String) : Bool :=
  ["yes", "no", "true", "false", "on", "off"].any fun word =>
    s == word || s == word.toUpper || s == word.capitalize

def dropBreak (cs : List Char) : List Char :=
  if cs.getLast? = some '\n' then cs.dropLast else cs

def isSixtieth : List Char → Bool
  | [c]    => isDigit c
  | [c, d] => '0' ≤ c && c ≤ '5' && isDigit d
  | _      => false

def isPlaces (cs : List Char) : Bool :=
  match splitAt ':' cs with
  | []             => false
  | first :: parts => first.head?.any isDigit && first.all isDigitOrBar && parts.all isSixtieth

def isInt (s : String) : Bool :=
  match dropSign s.toList with
  | '0' :: 'b' :: cs => !cs.isEmpty && cs.all fun c => c = '0' || c = '1' || c = '_'
  | '0' :: 'x' :: cs => !cs.isEmpty && cs.all fun c => (Text.hexValue? c).isSome || c = '_'
  | '0' :: cs        => cs.all fun c => ('0' ≤ c && c ≤ '7') || c = '_'
  | cs               => isPlaces cs

def isExponent : List Char → Bool
  | []          => true
  | e :: s :: cs => (e = 'e' || e = 'E') && (s = '+' || s = '-') && !cs.isEmpty && cs.all isDigit
  | _           => false

def isFloat (s : String) : Bool :=
  let cs := s.toList
  let unsigned := dropSign cs
  let whole := unsigned.takeWhile (· ≠ '.')
  let fraction := unsigned.drop (whole.length + 1)
  let hasPoint := whole.length < unsigned.length
  let exponent := fraction.dropWhile isDigitOrBar
  hasPoint &&
    (if whole.isEmpty then
      ["inf", "Inf", "INF"].contains (String.ofList fraction) ||
        (unsigned.length = cs.length &&
          (["nan", "NaN", "NAN"].contains (String.ofList fraction) ||
            (fraction.head?.any isDigit && isExponent exponent)))
    else
      isPlaces whole && (if whole.contains ':' then exponent.isEmpty else isExponent exponent))

def digits? (least most : Nat) (cs : List Char) : Option (Nat × List Char) := do
  let ds := (cs.take most).takeWhile isDigit
  if ds.length < least then none
  else return (((String.ofList ds).toNat?).getD 0, cs.drop ds.length)

def char? (c : Char) : List Char → Option (List Char)
  | d :: cs => if c = d then some cs else none
  | []      => none

structure Timestamp where
  year     : Nat
  month    : Nat
  day      : Nat
  time     : Option (Nat × Nat × Nat)
  fraction : List Char
  zone     : Option Int

def zone? (cs : List Char) : Option (Option Int) :=
  match cs.dropWhile fun c => c = ' ' || c = '\t' with
  | []        => if cs.isEmpty then some none else none
  | ['Z']     => some (some 0)
  | sign :: r =>
    if sign = '+' || sign = '-' then do
      let (hours, r) ← digits? 1 2 r
      let minutes ←
        if r.isEmpty then pure 0
        else do
          let (minutes, r) ← digits? 2 2 (← char? ':' r)
          if r.isEmpty then pure minutes else none
      let offset : Int := 60 * hours + minutes
      return some (if sign = '-' then -offset else offset)
    else none

def timestamp? (cs : List Char) : Option Timestamp := do
  let (year, cs) ← digits? 4 4 cs
  let (month, cs) ← digits? 1 2 (← char? '-' cs)
  let (day, cs) ← digits? 1 2 (← char? '-' cs)
  match cs with
  | []      => return { year, month, day, time := none, fraction := [], zone := none }
  | c :: cs =>
    let cs ←
      if c = 'T' || c = 't' then some cs
      else if c = ' ' || c = '\t' then some (cs.dropWhile fun c => c = ' ' || c = '\t')
      else none
    let (hour, cs) ← digits? 1 2 cs
    let (minute, cs) ← digits? 2 2 (← char? ':' cs)
    let (second, cs) ← digits? 2 2 (← char? ':' cs)
    let hasPoint := cs.head? = some '.'
    let fraction := if hasPoint then cs.tail.takeWhile isDigit else []
    let cs := if hasPoint then cs.tail.dropWhile isDigit else cs
    return { year, month, day, time := some (hour, minute, second), fraction, zone := ← zone? cs }

def isTimestamp (s : String) : Bool :=
  match timestamp? s.toList with
  | none   => false
  | some t => t.time.isSome || s.length = 10

def kind? (s : String) : Option Tag :=
  if isBool s then some .bool
  else if isFloat s then some .float
  else if isInt s then some .int
  else if s = "<<" then some .merge
  else if isNull s then some .null
  else if isTimestamp s then some .timestamp
  else if s = "=" then some .value
  else if ["!", "&", "*"].contains s then some .other
  else none

-- What a scalar is meant to be that is not marked as text. A line break at its end does not matter, unless
-- there is nothing else.
def tag (s : List Text.CodePoint) : Tag :=
  match s.mapM (·.char?) with
  | none    => .text
  | some [] => .null
  | some cs => (kind? (.ofList (dropBreak cs))).getD .text

end Plain
end Chatline.Yaml
