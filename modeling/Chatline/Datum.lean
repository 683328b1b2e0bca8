import Chatline.Binary64.Shortest
import Chatline.Calendar

namespace Chatline

inductive Datum
  | null
  | bool (b : Bool)
  | int (i : Int)
  | float (f : Binary64)
  | date (d : Date)
  | moment (m : Moment)
  | text (s : List Text.CodePoint)
  | bytes (bs : List UInt8)
  | list (items : List Datum)
  | pair (first second : Datum)
  | set (members : List Datum)
  | map (entries : List (Datum × Datum))
  -- A list or map at a place within itself.
  | enclosing (isMap : Bool)
  deriving Repr, Inhabited

namespace Datum

def ofString (s : String) : Datum :=
  text (Text.points s)

-- Numbers are written positionally, and always with a point, if at most sixteen digits come before the
-- point and at most three zeros right after it. Exponents have a sign and two digits or more.
def floatText : Binary64 → String
  | .nan               => "nan"
  | .infinite negative => if negative then "-inf" else "inf"
  | .finite negative m e =>
    let sign := if negative then "-" else ""
    if m = 0 then sign ++ "0.0"
    else
      let d := Binary64.shortest m e
      let count : Int := d.digits.length
      let zeros (n : Int) : List Char := List.replicate n.toNat '0'
      let unsigned : List Char :=
        if d.point ≤ -4 || 16 < d.point then
          let exponent := d.point - 1
          let tail := if d.digits.length = 1 then [] else '.' :: d.digits.drop 1
          d.digits.take 1 ++ tail ++ ['e', if exponent < 0 then '-' else '+'] ++
            (Calendar.padded 2 exponent.natAbs).toList
        else if d.point ≤ 0 then '0' :: '.' :: zeros (-d.point) ++ d.digits
        else if count ≤ d.point then d.digits ++ zeros (d.point - count) ++ ['.', '0']
        else d.digits.take d.point.toNat ++ '.' :: d.digits.drop d.point.toNat
      sign ++ .ofList unsigned

def bytesText (bs : List UInt8) : String :=
  let chars := bs.map fun b => Char.ofNat b.toNat
  let mark := Text.quoteMark chars
  let unit (c : Char) : List Char :=
    if c.toNat < 0x7f then Text.quoteChar mark c else '\\' :: 'x' :: Text.hexDigits 2 c.toNat
  .ofList ('b' :: mark :: chars.flatMap unit ++ [mark])

def boolText (b : Bool) : String :=
  if b then "True" else "False"

def intText (i : Int) : Except Failure String :=
  let digits := toString i.natAbs
  if digits.length > Failure.digitLimit then .error (.tooManyDigits none)
  else .ok (if i < 0 then "-" ++ digits else digits)

def bracketed (opening closing : String) (texts : List String) : String :=
  opening ++ ", ".intercalate texts ++ closing

mutual

def innerText : Datum → Except Failure String
  | null            => return "None"
  | bool b          => return boolText b
  | int i           => intText i
  | float f         => return floatText f
  | date d          => return d.innerText
  | moment m        => return m.innerText
  | text s          => return Text.quotedPoints s
  | bytes bs        => return bytesText bs
  | list items      => return bracketed "[" "]" (← innerTexts items)
  | pair a b        => return bracketed "(" ")" [← a.innerText, ← b.innerText]
  | set []          => return "set()"
  | set members     => return bracketed "\x7b" "\x7d" (← innerTexts members)
  | map entries     => return bracketed "\x7b" "\x7d" (← entryTexts entries)
  | enclosing isMap => return if isMap then "\x7b...\x7d" else "[...]"

def innerTexts : List Datum → Except Failure (List String)
  | []      => return []
  | d :: ds => return (← d.innerText) :: (← innerTexts ds)

def entryTexts : List (Datum × Datum) → Except Failure (List String)
  | []           => return []
  | (k, v) :: es => return ((← k.innerText) ++ ": " ++ (← v.innerText)) :: (← entryTexts es)

end

def display : Datum → Except Failure (List Text.CodePoint)
  | text s   => return s
  | date d   => return Text.points d.isoText
  | moment m => return Text.points m.isoText
  | d        => return Text.points (← d.innerText)

def typeName : Datum → String
  | null        => "NoneType"
  | bool _      => "bool"
  | int _       => "int"
  | float _     => "float"
  | date _      => "date"
  | moment _    => "datetime"
  | text _      => "str"
  | bytes _     => "bytes"
  | list _      => "list"
  | pair _ _    => "tuple"
  | set _       => "set"
  | map _       => "dict"
  | enclosing isMap => if isMap then "dict" else "list"

def integer? : Datum → Option Int
  | bool b => some (if b then 1 else 0)
  | int i  => some i
  | _      => none

-- Whether two keys are the same. Numbers are the same if they are equal, whatever their types.
def sameKey (a b : Datum) : Bool :=
  match a, b with
  | null, null           => true
  | text s, text t       => s == t
  | bytes s, bytes t     => s == t
  | date d, date e       => d == e
  | moment m, moment n   => m.isSame n
  | float f, float g     => f.sameValue g
  | float f, _           => (b.integer?.map f.isInteger).getD false
  | _, float g           => (a.integer?.map g.isInteger).getD false
  | _, _                 => a.integer?.isSome && a.integer? == b.integer?

def insertEntry (entries : List (Datum × Datum)) (key value : Datum) : List (Datum × Datum) :=
  match entries with
  | []           => [(key, value)]
  | (k, v) :: es => if k.sameKey key then (k, value) :: es else (k, v) :: insertEntry es key value

def ofEntries (entries : List (Datum × Datum)) : Datum :=
  .map (entries.foldl (fun es (k, v) => insertEntry es k v) [])

def entry? (entries : List (Datum × Datum)) (key : String) : Option Datum :=
  (entries.find? fun (k, _) => k.sameKey (ofString key)).map (·.2)

end Datum
end Chatline
