import Chatline.Text.LineBreak
import Chatline.Text.Utf8

namespace Chatline.Text

-- What can be read of a text file: the characters, and the flaw that ends the reading, if there is one.
structure Reading where
  chars : List Char
  flaw  : Option Utf8.Flaw

namespace Reading

def blockSize : Nat := 8192

def decodeBlocks : Nat → List UInt8 → List UInt8 → List Char × Option Utf8.Flaw
  | 0,        _,    _     => ([], none)
  | fuel + 1, left, bytes =>
    match bytes with
    | [] =>
      match Utf8.decode true left with
      | .ok (cs, _) => (cs, none)
      | .error flaw => ([], some flaw)
    | _  =>
      match Utf8.decode false (left ++ bytes.take blockSize) with
      | .ok (cs, left) =>
        let (more, flaw) := decodeBlocks fuel left (bytes.drop blockSize)
        (cs ++ more, flaw)
      | .error flaw    => ([], some flaw)

def ofBytes (bytes : List UInt8) : Reading :=
  let (cs, flaw) := decodeBlocks (bytes.length / blockSize + 2) [] bytes
  let cs := if flaw.isSome && cs.getLast? = some '\r' then cs.dropLast else cs
  { chars := unifyBreaks cs, flaw }

end Reading
end Chatline.Text
