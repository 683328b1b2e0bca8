import Chatline.Text.Hex

namespace Chatline.Text.Utf8

-- What a byte may open: the bits it contributes itself, and the range of each byte that has to follow.
-- The ranges leave out overlong forms, surrogates and everything above the last code point.
def opening? (b : UInt8) : Option (Nat × List (UInt8 × UInt8)) :=
  let tail : UInt8 × UInt8 := (0x80, 0xbf)
  let n := b.toNat
  if n < 0x80 then some (n, [])
  else if n < 0xc2 then none
  else if n < 0xe0 then some (n - 0xc0, [tail])
  else if n = 0xe0 then some (0, [(0xa0, 0xbf), tail])
  else if n = 0xed then some (13, [(0x80, 0x9f), tail])
  else if n < 0xf0 then some (n - 0xe0, [tail, tail])
  else if n = 0xf0 then some (0, [(0x90, 0xbf), tail, tail])
  else if n < 0xf4 then some (n - 0xf0, [tail, tail, tail])
  else if n = 0xf4 then some (4, [(0x80, 0x8f), tail, tail])
  else none

inductive Start
  | char (c : Char) (count : Nat)
  | partOfChar
  | noOpening
  | noContinuation (count : Nat)

def proceed (value count : Nat) : List (UInt8 × UInt8) → List UInt8 → Start
  | [],                   _       => .char (.ofNat value) count
  | _ :: _,               []      => .partOfChar
  | (low, high) :: ranges, b :: bs =>
    if low ≤ b && b ≤ high then proceed (value * 64 + (b.toNat - 0x80)) (count + 1) ranges bs
    else .noContinuation count

def start (b : UInt8) (bs : List UInt8) : Start :=
  match opening? b with
  | none                 => .noOpening
  | some (value, ranges) => proceed value 1 ranges bs

structure Flaw where
  first    : UInt8
  position : Nat
  count    : Nat
  reason   : String
  deriving DecidableEq, Repr

def Flaw.message (f : Flaw) : String :=
  let place :=
    if f.count = 1 then
      let byte := String.ofList (hexDigits 2 f.first.toNat)
      s!"byte 0x{byte} in position {f.position}"
    else
      s!"bytes in position {f.position}-{f.position + f.count - 1}"
  s!"'utf-8' codec can't decode {place}: {f.reason}"

-- A part of a character at the end is left to what comes next. So is the beginning of a surrogate, until
-- its last byte is there.
def isLeft (b : UInt8) (bs : List UInt8) (s : Start) : Bool :=
  match s, bs with
  | .partOfChar, _         => true
  | .noContinuation 1, [c] => b = 0xed && 0xa0 ≤ c && c ≤ 0xbf
  | _, _                   => false

def decode (isLast : Bool) (bytes : List UInt8) : Except Flaw (List Char × List UInt8) :=
  go bytes.length 0 bytes
where
  go : Nat → Nat → List UInt8 → Except Flaw (List Char × List UInt8)
    | 0,        _,        bytes   => .ok ([], bytes)
    | _ + 1,    _,        []      => .ok ([], [])
    | fuel + 1, position, b :: bs => do
      let flaw (count : Nat) (reason : String) : Except Flaw (List Char × List UInt8) :=
        .error { first := b, position, count, reason }
      let s := start b bs
      if !isLast && isLeft b bs s then return ([], b :: bs)
      match s with
      | .char c count         =>
        let (cs, left) ← go fuel (position + count) ((b :: bs).drop count)
        return (c :: cs, left)
      | .partOfChar           => flaw (bs.length + 1) "unexpected end of data"
      | .noOpening            => flaw 1 "invalid start byte"
      | .noContinuation count => flaw count "invalid continuation byte"

def decode? (bytes : List UInt8) : Option String :=
  (decode true bytes).toOption.map fun (cs, _) => .ofList cs

def decodeLossy (bytes : List UInt8) : String :=
  .ofList (go bytes.length bytes)
where
  go : Nat → List UInt8 → List Char
    | 0,        _       => []
    | _ + 1,    []      => []
    | fuel + 1, b :: bs =>
      match start b bs with
      | .char c count         => c :: go fuel (bs.drop (count - 1))
      | .partOfChar           => ['\ufffd']
      | .noOpening            => '\ufffd' :: go fuel bs
      | .noContinuation count => '\ufffd' :: go fuel (bs.drop (count - 1))

def encode (s : String) : List UInt8 :=
  s.toUTF8.toList

end Chatline.Text.Utf8
