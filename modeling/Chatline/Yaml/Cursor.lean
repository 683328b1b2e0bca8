import Chatline.Text.Reading
import Chatline.Yaml.Fault

namespace Chatline.Yaml

-- A text as far as it can be read, with the trouble that arises if it goes on from there.
structure Source where
  chars   : List Char
  trouble : Option Fault

structure Cursor where
  rest    : List Char
  trouble : Option Fault
  index   : Nat
  line    : Nat
  column  : Nat

def isBreak (c : Char) : Bool :=
  c = '\n' || c = '\x85' || c = '\u2028' || c = '\u2029'

def isBreakOrEnd : Option Char → Bool
  | none   => true
  | some c => isBreak c

def isSpaceOrEnd : Option Char → Bool
  | none   => true
  | some c => c = ' ' || isBreak c

def isBlankOrEnd : Option Char → Bool
  | none   => true
  | some c => c = ' ' || c = '\t' || isBreak c

def isWordChar (c : Char) : Bool :=
  ('0' ≤ c && c ≤ '9') || ('A' ≤ c && c ≤ 'Z') || ('a' ≤ c && c ≤ 'z') || c = '-' || c = '_'

def isAllowed (c : Char) : Bool :=
  let n := c.toNat
  n = 0x09 || n = 0x0a || n = 0x0d || (0x20 ≤ n && n ≤ 0x7e) || n = 0x85 ||
    (0xa0 ≤ n && n ≤ 0xfffd) || 0x10000 ≤ n

namespace Source

def pieceSize : Nat := 4096
def firstSize : Nat := 2 * pieceSize

def wholePieces (count : Nat) : Nat :=
  count / pieceSize * pieceSize

def allowedLength (cs : List Char) : Nat :=
  let allowed := (cs.takeWhile isAllowed).length
  if allowed < cs.length then wholePieces allowed else cs.length

def ofReading (r : Text.Reading) : Except Fault Source := do
  let decoded := if r.flaw.isSome then r.chars.take (wholePieces r.chars.length) else r.chars
  let flaw := r.flaw.map fun flaw => Fault.unusable (.notText flaw)
  if let some fault := flaw then
    if decoded.length < firstSize then throw fault
  let allowed := allowedLength decoded
  if allowed < decoded.length then
    if allowed < firstSize then throw .malformed
    return { chars := decoded.take allowed, trouble := some .malformed }
  return { chars := decoded, trouble := flaw }

end Source

namespace Cursor

def ofSource (s : Source) : Cursor :=
  { rest := s.chars, trouble := s.trouble, index := 0, line := 0, column := 0 }

def refuse {α : Type} (c : Cursor) : Except Fault α :=
  .error (if c.rest.isEmpty then c.trouble.getD .malformed else .malformed)

def peek (c : Cursor) : Option Char :=
  c.rest.head?

def peekAt (c : Cursor) (n : Nat) : Option Char :=
  c.rest[n]?

def next (c : Cursor) : Cursor :=
  match c.rest with
  | []      => c
  | x :: xs =>
    let c := { c with rest := xs, index := c.index + 1 }
    if isBreak x then { c with line := c.line + 1, column := 0 }
    else if x = '\ufeff' then c
    else { c with column := c.column + 1 }

def skip (c : Cursor) : Nat → Cursor
  | 0     => c
  | n + 1 => c.next.skip n

def span (c : Cursor) (p : Char → Bool) : List Char × Cursor :=
  let run := c.rest.takeWhile p
  (run, c.skip run.length)

def skipWhile (c : Cursor) (p : Char → Bool) : Cursor :=
  (c.span p).2

def skipSpaces (c : Cursor) : Cursor :=
  c.skipWhile (· = ' ')

def skipLine (c : Cursor) : Cursor :=
  c.skipWhile (!isBreak ·)

def lineBreak (c : Cursor) : List Char × Cursor :=
  match c.peek with
  | some x =>
    if x = '\u2028' || x = '\u2029' then ([x], c.next)
    else if isBreak x then (['\n'], c.next)
    else ([], c)
  | none   => ([], c)

def endLine (c : Cursor) : Except Fault Cursor :=
  let c := c.skipSpaces
  let c := if c.peek = some '#' then c.skipLine else c
  if isBreakOrEnd c.peek then .ok c.lineBreak.2 else c.refuse

def lookAhead (c : Cursor) (count : Nat) : Cursor :=
  if c.trouble.isSome && (c.rest.drop (count - 1)).isEmpty then { c with rest := [] } else c

def lookForMark (c : Cursor) : Cursor :=
  let start := c.rest.take 3
  c.lookAhead (if start = ['-', '-', '-'] || start = ['.', '.', '.'] then 4 else 3)

def atDocumentMark (c : Cursor) : Bool :=
  match c.rest with
  | '-' :: '-' :: '-' :: xs => isBlankOrEnd xs.head?
  | '.' :: '.' :: '.' :: xs => isBlankOrEnd xs.head?
  | _                       => false

end Cursor
end Chatline.Yaml
