import Chatline.Text.Hex
import Chatline.Yaml.Cursor

namespace Chatline.Yaml

abbrev Scan (α : Type) := Cursor → Except Fault (α × Cursor)

namespace Scalar

def quotedBreaks : Nat → Scan (List Char)
  | 0,        c => c.refuse
  | fuel + 1, c =>
    let c := c.lookForMark
    if c.atDocumentMark then c.refuse
    else
      let c := c.skipWhile fun x => x = ' ' || x = '\t'
      if c.peek.any isBreak then do
        let (first, c) := c.lineBreak
        let (others, c) ← quotedBreaks fuel c
        return (first ++ others, c)
      else
        return ([], c)

-- One break between lines stands for a space. Of several, the first stands for nothing.
def folded (first others : List Char) : List Char :=
  if first ≠ ['\n'] then first ++ others else if others.isEmpty then [' '] else others

def quotedBlanks : Scan (List Char) := fun c => do
  let (blanks, c) := c.span fun x => x = ' ' || x = '\t'
  match c.peek with
  | none   => c.refuse
  | some x =>
    if isBreak x then
      let (first, c) := c.lineBreak
      let (others, c) ← quotedBreaks (c.rest.length + 1) c
      return (folded first others, c)
    else
      return (blanks, c)

def escape? : Char → Option Char
  | '0'  => some '\x00'
  | 'a'  => some '\x07'
  | 'b'  => some '\x08'
  | 't'  => some '\t'
  | '\t' => some '\t'
  | 'n'  => some '\n'
  | 'v'  => some '\x0b'
  | 'f'  => some '\x0c'
  | 'r'  => some '\r'
  | 'e'  => some '\x1b'
  | ' '  => some ' '
  | '"'  => some '"'
  | '\\' => some '\\'
  | '/'  => some '/'
  | 'N'  => some '\x85'
  | '_'  => some '\xa0'
  | 'L'  => some '\u2028'
  | 'P'  => some '\u2029'
  | _    => none

def escapeWidth? : Char → Option Nat
  | 'x' => some 2
  | 'u' => some 4
  | 'U' => some 8
  | _   => none

def hexCode (width : Nat) : Scan Nat := fun c =>
  let digits := (c.rest.take width).takeWhile fun x => (Text.hexValue? x).isSome
  if digits.length < width then (c.skip digits.length).refuse
  else return ((Text.ofHexDigits? digits).getD 0, c.skip width)

def greatestCode : Nat := 0x7fffffff

def codePoint (code : Nat) : Except Fault Text.CodePoint :=
  match Text.CodePoint.ofNumber? code with
  | some p => .ok p
  | none   =>
    .error <| .unusable <|
      if code ≤ greatestCode then .outOfRange "chr() arg not in range(0x110000)"
      else .overflow "Python int too large to convert to C int"

def escaped : Scan (List Text.CodePoint) := fun c => do
  let some y := c.peek | c.refuse
  if let some z := escape? y then
    return ([.char z], c.next)
  else if let some width := escapeWidth? y then
    let (code, c) ← hexCode width c.next
    return ([← codePoint code], c)
  else if isBreak y then
    let c := c.lineBreak.2
    let (breaks, c) ← quotedBreaks (c.rest.length + 1) c
    return (breaks.map .char, c)
  else
    c.refuse

def quotedRest (double : Bool) : Nat → Scan (List Text.CodePoint)
  | 0,        c => c.refuse
  | fuel + 1, c => do
    let some x := c.peek | c.refuse
    if x = '\'' && !double && c.peekAt 1 = some '\'' then
      let (more, c) ← quotedRest double fuel (c.skip 2)
      return (.char '\'' :: more, c)
    else if x = (if double then '"' else '\'') then
      return ([], c.next)
    else if x = ' ' || x = '\t' || isBreak x then
      let (blanks, c) ← quotedBlanks c
      let (more, c) ← quotedRest double fuel c
      return (blanks.map .char ++ more, c)
    else if double && x = '\\' then
      let (meant, c) ← escaped c.next
      let (more, c) ← quotedRest double fuel c
      return (meant ++ more, c)
    else
      let (more, c) ← quotedRest double fuel c.next
      return (.char x :: more, c)

def quoted (double : Bool) : Scan (List Text.CodePoint) := fun c =>
  quotedRest double (c.rest.length + 1) c.next

def endsPlain (inFlow : Bool) (x : Char) (following : Option Char) : Bool :=
  isBlankOrEnd (some x) ||
    (x = ':' && (isBlankOrEnd following || (inFlow && following.any (",[]\x7b\x7d".toList.contains ·)))) ||
    (inFlow && ",?[]\x7b\x7d".toList.contains x)

def plainLength (inFlow : Bool) : List Char → Nat
  | []      => 0
  | x :: xs => if endsPlain inFlow x xs.head? then 0 else plainLength inFlow xs + 1

def plainBreaks : Nat → Cursor → Option (List Char) × Cursor
  | 0,        c => (none, c)
  | fuel + 1, c =>
    match c.peek with
    | none   => (some [], c)
    | some x =>
      if x = ' ' then plainBreaks fuel c.next
      else if isBreak x then
        let (first, c) := c.lineBreak
        let c := c.lookForMark
        if c.atDocumentMark then (none, c)
        else
          let (others, c) := plainBreaks fuel c
          (others.map (first ++ ·), c)
      else (some [], c)

def plainBlanks (c : Cursor) : List Char × Bool × Cursor :=
  let (spaces, c) := c.span (· = ' ')
  if c.peek.any isBreak then
    let (first, c) := c.lineBreak
    let c := c.lookForMark
    if c.atDocumentMark then ([], true, c)
    else
      let (others, c) := plainBreaks (c.rest.length + 1) c
      ((others.map (folded first)).getD [], true, c)
  else (spaces, false, c)

def plainParts (inFlow : Bool) (indent : Nat) : Nat → Cursor → List Char × Bool × Cursor
  | 0,        c => ([], false, c)
  | fuel + 1, c =>
    let length := if c.peek = some '#' then 0 else plainLength inFlow c.rest
    if length = 0 then ([], false, c)
    else
      let part := c.rest.take length
      let c := c.skip length
      let c := if c.peek = some ':' then c.lookAhead 2 else c
      let (blanks, broken, c) := plainBlanks c
      if blanks.isEmpty || c.peek = some '#' || (!inFlow && c.column < indent) then (part, broken, c)
      else
        match plainParts inFlow indent fuel c with
        | ([], _, c)        => (part, broken, c)
        | (more, broken, c) => (part ++ blanks ++ more, broken, c)

def plain (inFlow : Bool) (indent : Nat) (c : Cursor) : List Char × Bool × Cursor :=
  plainParts inFlow indent (c.rest.length + 1) c

inductive Chomping
  | strip
  | clip
  | keep
  deriving DecidableEq

def chomping? : Option Char → Option Chomping
  | some '+' => some .keep
  | some '-' => some .strip
  | _        => none

def digit? (x : Option Char) : Option Nat := do
  let x ← x
  if x.isDigit then some (x.toNat - '0'.toNat) else none

def blockHeader : Scan (Chomping × Option Nat) := fun c => do
  let (chomping, width, c) :=
    match chomping? c.peek with
    | some k =>
      match digit? c.next.peek with
      | some n => (k, some n, c.skip 2)
      | none   => (k, none, c.next)
    | none   =>
      match digit? c.peek with
      | some n =>
        match chomping? c.next.peek with
        | some k => (k, some n, c.skip 2)
        | none   => (.clip, some n, c.next)
      | none   => (.clip, none, c)
  if width = some 0 || !isSpaceOrEnd c.peek then c.refuse
  else return ((chomping, width), ← c.endLine)

def blockStart : Nat → Cursor → (List Char × Nat) × Cursor
  | 0,        c => (([], 0), c)
  | fuel + 1, c =>
    match c.peek with
    | none   => (([], 0), c)
    | some x =>
      if x = ' ' then
        let c := c.next
        let ((breaks, indent), c') := blockStart fuel c
        ((breaks, max c.column indent), c')
      else if isBreak x then
        let (first, c) := c.lineBreak
        let ((others, indent), c) := blockStart fuel c
        ((first ++ others, indent), c)
      else (([], 0), c)

def skipIndent (indent : Nat) : Nat → Cursor → Cursor
  | 0,        c => c
  | fuel + 1, c => if c.column < indent && c.peek = some ' ' then skipIndent indent fuel c.next else c

def blockBreaks (indent : Nat) : Nat → Cursor → List Char × Cursor
  | 0,        c => ([], c)
  | fuel + 1, c =>
    let c := skipIndent indent indent c
    if c.peek.any isBreak then
      let (first, c) := c.lineBreak
      let (others, c) := blockBreaks indent fuel c
      (first ++ others, c)
    else ([], c)

def blockLines (fold : Bool) (indent : Nat) : Nat → List Char → Cursor →
    (List Char × List Char × List Char) × Cursor
  | 0,        breaks, c => (([], [], breaks), c)
  | fuel + 1, breaks, c =>
    let startsDark := !(c.peek = some ' ' || c.peek = some '\t')
    let (line, c) := c.span (!isBreak ·)
    let (first, c) := c.lineBreak
    let (others, c) := blockBreaks indent (c.rest.length + 1) c
    if c.column = indent && c.peek.isSome then
      let nextDark := !(c.peek = some ' ' || c.peek = some '\t')
      let joint :=
        if fold && first = ['\n'] && startsDark && nextDark then if others.isEmpty then [' '] else []
        else first
      let ((more, last, trailing), c) := blockLines fold indent fuel others c
      ((breaks ++ line ++ joint ++ more, last, trailing), c)
    else ((breaks ++ line, first, others), c)

def block (fold : Bool) (parent : Nat) : Scan (List Char) := fun c => do
  let ((chomping, width), c) ← blockHeader c.next
  let least := max 1 parent
  let fuel := c.rest.length + 1
  let ((breaks, c), indent) :=
    match width with
    | none   =>
      let ((breaks, found), c) := blockStart fuel c
      ((breaks, c), max least found)
    | some n => (blockBreaks (least + n - 1) fuel c, least + n - 1)
  if c.column = indent && c.peek.isSome then
    let ((content, last, trailing), c) := blockLines fold indent fuel breaks c
    let tail :=
      match chomping with
      | .strip => []
      | .clip  => last
      | .keep  => last ++ trailing
    return (content ++ tail, c)
  else
    return (if chomping = .keep then breaks else [], c)

end Scalar
end Chatline.Yaml
