import Chatline.Numeral
import Chatline.Text.Utf8
import Chatline.Yaml.Scalar

namespace Chatline.Yaml

structure TagName where
  handle : Option String
  suffix : String

inductive Token
  | versionDirective (major : Int)
  | tagDirective (handle expansion : String)
  | otherDirective
  | documentStart
  | documentEnd
  | blockListStart
  | blockMapStart
  | blockEnd
  | flowListStart
  | flowListEnd
  | flowMapStart
  | flowMapEnd
  | blockEntry
  | flowEntry
  | key
  | value
  | alias (name : String)
  | anchor (name : String)
  | tag (name : TagName)
  | scalar (plain : Bool) (text : List Text.CodePoint)

-- A token that turns out to be a key if a value indicator comes after it on the same line. Its position is
-- the number of tokens before it.
structure PossibleKey where
  position : Nat
  required : Bool
  cursor   : Cursor

-- A text that has been split into tokens up to a place. `queue` holds the tokens that have not been taken
-- yet, and `taken` is the number of all others. `indents` are the columns of the open block collections from
-- the innermost on, `flow` is the number of open flow collections, and `keys` holds the possible key of each
-- flow level.
structure Lexer where
  cursor     : Cursor
  queue      : List Token
  taken      : Nat
  indents    : List Nat
  flow       : Nat
  keyAllowed : Bool
  keys       : List (Nat × PossibleKey)
  isDone     : Bool

namespace Lexer

def start (s : Source) : Lexer :=
  let c := Cursor.ofSource s
  { cursor := if c.peek = some '\ufeff' then c.next else c
    queue := [], taken := 0, indents := [], flow := 0, keyAllowed := true, keys := [], isDone := false }

def push (l : Lexer) (t : Token) : Lexer :=
  { l with queue := l.queue ++ [t] }

def position (l : Lexer) : Nat :=
  l.taken + l.queue.length

def insertAt (l : Lexer) (position : Nat) (t : Token) : Lexer :=
  let before := position - l.taken
  { l with queue := l.queue.take before ++ t :: l.queue.drop before }

def nextIndent (l : Lexer) : Nat :=
  (l.indents.head?.map (· + 1)).getD 0

def skipToToken : Nat → Lexer → Lexer
  | 0,        l => l
  | fuel + 1, l =>
    let c := l.cursor.skipSpaces
    let c := if c.peek = some '#' then c.skipLine else c
    if c.peek.any isBreak then
      skipToToken fuel
        { l with cursor := c.lineBreak.2, keyAllowed := l.keyAllowed || l.flow = 0 }
    else { l with cursor := c }

def expireKeys (l : Lexer) : Except Fault Lexer :=
  let isStale (k : PossibleKey) : Bool :=
    k.cursor.line ≠ l.cursor.line || l.cursor.index - k.cursor.index > 1024
  if l.keys.any fun (_, k) => isStale k && k.required then .error .malformed
  else .ok { l with keys := l.keys.filter fun (_, k) => !isStale k }

def removeKey (l : Lexer) : Except Fault Lexer :=
  match l.keys.lookup l.flow with
  | none   => .ok l
  | some k =>
    if k.required then .error .malformed else .ok { l with keys := l.keys.filter (·.1 ≠ l.flow) }

def saveKey (l : Lexer) : Except Fault Lexer :=
  if l.keyAllowed then do
    let required := l.flow = 0 && l.indents.head? = some l.cursor.column
    let l ← l.removeKey
    return { l with keys := (l.flow, ⟨l.position, required, l.cursor⟩) :: l.keys }
  else
    return l

def closeDeeper (l : Lexer) (isDeeper : Nat → Bool) : Lexer :=
  if l.flow ≠ 0 then l
  else
    let closed := l.indents.takeWhile isDeeper
    { l with
      indents := l.indents.dropWhile isDeeper
      queue   := l.queue ++ List.replicate closed.length .blockEnd }

def closeAll (l : Lexer) : Lexer :=
  l.closeDeeper fun _ => true

def openAt (l : Lexer) (column position : Nat) (t : Token) : Lexer :=
  if column < l.nextIndent then l
  else { l.insertAt position t with indents := column :: l.indents }

def tagHandle : Scan String := fun c => do
  if c.peek ≠ some '!' then c.refuse
  else if c.peekAt 1 = some ' ' then return ("!", c.next)
  else
    let (word, c) := c.next.span isWordChar
    if c.peek = some '!' then return ("!" ++ .ofList word ++ "!", c.next) else c.refuse

def isTagChar (x : Char) : Bool :=
  isWordChar x || ";/?:@&=+$,.!~*'()[]".toList.contains x

def percentBytes : Nat → Scan (List UInt8)
  | 0,        c => c.refuse
  | fuel + 1, c =>
    if c.peek = some '%' then do
      let (n, c) ← Scalar.hexCode 2 c.next
      let (bytes, c) ← percentBytes fuel c
      return (n.toUInt8 :: bytes, c)
    else return ([], c)

def tagChars : Nat → Scan (List Char)
  | 0,        c => c.refuse
  | fuel + 1, c => do
    let (run, c) := c.span isTagChar
    if c.peek = some '%' then
      let (bytes, c) ← percentBytes (c.rest.length + 1) c
      let some text := Text.Utf8.decode? bytes | c.refuse
      let (more, c) ← tagChars fuel c
      return (run ++ text.toList ++ more, c)
    else return (run, c)

def tagUri : Scan String := fun c => do
  let (cs, after) ← tagChars (c.rest.length + 1) c
  if after.index = c.index then c.refuse else return (.ofList cs, after)

def versionNumber : Scan Int := fun c => do
  let (digits, c) := c.span Char.isDigit
  if digits.isEmpty then c.refuse
  else return (← Fault.ofFailure (Numeral.integer 10 (digits.map .char)), c)

def versionDirective : Scan Token := fun c => do
  let (major, c) ← versionNumber c.skipSpaces
  if c.peek ≠ some '.' then c.refuse
  else
    let (_, c) ← versionNumber c.next
    if isSpaceOrEnd c.peek then return (.versionDirective major, ← c.endLine) else c.refuse

def tagDirective : Scan Token := fun c => do
  let (handle, c) ← tagHandle c.skipSpaces
  if c.peek ≠ some ' ' then c.refuse
  else
    let (expansion, c) ← tagUri c.skipSpaces
    if isSpaceOrEnd c.peek then return (.tagDirective handle expansion, ← c.endLine) else c.refuse

def directive : Scan Token := fun c => do
  let (name, c) := c.next.span isWordChar
  if name.isEmpty || !isSpaceOrEnd c.peek then c.refuse
  else if name = "YAML".toList then versionDirective c
  else if name = "TAG".toList then tagDirective c
  else return (.otherDirective, ← c.skipLine.endLine)

def anchorName : Scan String := fun c => do
  let (name, c) := c.next.span isWordChar
  let isFollowed := isBlankOrEnd c.peek || c.peek.any ("?:,]\x7d%@\x60".toList.contains ·)
  if name.isEmpty || !isFollowed then c.refuse else return (.ofList name, c)

def tagSpelling : Scan TagName := fun c => do
  let following := c.peekAt 1
  if following = some '<' then
    let (suffix, c) ← tagUri (c.skip 2)
    if c.peek = some '>' then return ({ handle := none, suffix }, c.next) else c.refuse
  else if isBlankOrEnd following then
    return ({ handle := none, suffix := "!" }, c.next)
  else if (c.next.rest.takeWhile fun x => !(x = ' ' || isBreak x)).contains '!' then
    let (handle, c) ← tagHandle c
    let (suffix, c) ← tagUri c
    return ({ handle := some handle, suffix }, c)
  else
    let (suffix, c) ← tagUri c.next
    return ({ handle := some "!", suffix }, c)

def tagName : Scan TagName := fun c => do
  let (name, c) ← tagSpelling c
  if isSpaceOrEnd c.peek then return (name, c) else c.refuse

def keyToken (l : Lexer) (scan : Scan Token) : Except Fault Lexer := do
  let l ← l.saveKey
  let (t, c) ← scan l.cursor
  return { l.push t with cursor := c, keyAllowed := false }

def documentMark (l : Lexer) (t : Token) : Except Fault Lexer := do
  let l ← l.closeAll.removeKey
  return { l.push t with cursor := l.cursor.skip 3, keyAllowed := false }

def flowStart (l : Lexer) (t : Token) : Except Fault Lexer := do
  let l ← l.saveKey
  return { l.push t with cursor := l.cursor.next, flow := l.flow + 1, keyAllowed := true }

def flowEnd (l : Lexer) (t : Token) : Except Fault Lexer := do
  let l ← l.removeKey
  if l.flow = 0 then l.cursor.refuse
  else return { l.push t with cursor := l.cursor.next, flow := l.flow - 1, keyAllowed := false }

def indicator (l : Lexer) (t opener : Token) (keyAllowed : Bool) : Except Fault Lexer := do
  if l.flow = 0 && !l.keyAllowed then l.cursor.refuse
  else
    let l := if l.flow = 0 then l.openAt l.cursor.column l.position opener else l
    let l ← { l with keyAllowed }.removeKey
    return { l.push t with cursor := l.cursor.next }

def valueIndicator (l : Lexer) : Except Fault Lexer :=
  match l.keys.lookup l.flow with
  | some k =>
    let l := { l with keys := l.keys.filter (·.1 ≠ l.flow), keyAllowed := false }
    let l := l.insertAt k.position .key
    let l := if l.flow = 0 then l.openAt k.cursor.column k.position .blockMapStart else l
    .ok { l.push .value with cursor := l.cursor.next }
  | none   => l.indicator .value .blockMapStart (l.flow = 0)

def blockScalar (l : Lexer) (fold : Bool) : Except Fault Lexer := do
  let l ← { l with keyAllowed := true }.removeKey
  let (content, c) ← Scalar.block fold l.nextIndent l.cursor
  return { l.push (.scalar false (content.map .char)) with cursor := c }

def quotedScalar (l : Lexer) (double : Bool) : Except Fault Lexer :=
  l.keyToken fun c => do
    let (content, c) ← Scalar.quoted double c
    return (.scalar false content, c)

def plainScalar (l : Lexer) : Except Fault Lexer := do
  let l ← l.saveKey
  let (content, broken, c) := Scalar.plain (l.flow ≠ 0) l.nextIndent l.cursor
  return { l.push (.scalar true (content.map .char)) with cursor := c, keyAllowed := broken }

def beginsPlain (inFlow : Bool) (x : Char) (following : Option Char) : Bool :=
  !(isBlankOrEnd (some x) || "-?:,[]\x7b\x7d#&*!|>'\"%@\x60".toList.contains x) ||
    (!isBlankOrEnd following && (x = '-' || (!inFlow && (x = '?' || x = ':'))))

def lookAhead (l : Lexer) (x : Char) : Cursor :=
  if l.cursor.column = 0 && (x = '-' || x = '.') then l.cursor.lookForMark
  else if x = '-' || (l.flow = 0 && (x = '?' || x = ':')) then l.cursor.lookAhead 2
  else l.cursor

def token (l : Lexer) (x : Char) : Except Fault Lexer :=
  let c := l.lookAhead x
  let inFlow := l.flow ≠ 0
  let standsAlone := isBlankOrEnd (c.peekAt 1)
  if c.rest.isEmpty then c.refuse
  else if c.column = 0 && x = '%' then do
    let l ← l.closeAll.removeKey
    let (t, c) ← directive l.cursor
    return { l.push t with cursor := c, keyAllowed := false }
  else if c.column = 0 && c.atDocumentMark then
    l.documentMark (if x = '-' then .documentStart else .documentEnd)
  else if x = '[' then l.flowStart .flowListStart
  else if x = '\x7b' then l.flowStart .flowMapStart
  else if x = ']' then l.flowEnd .flowListEnd
  else if x = '\x7d' then l.flowEnd .flowMapEnd
  else if x = ',' then do
    let l ← { l with keyAllowed := true }.removeKey
    return { l.push .flowEntry with cursor := c.next }
  else if x = '-' && standsAlone then l.indicator .blockEntry .blockListStart true
  else if x = '?' && (inFlow || standsAlone) then l.indicator .key .blockMapStart !inFlow
  else if x = ':' && (inFlow || standsAlone) then l.valueIndicator
  else if x = '*' then l.keyToken fun c => do
    let (name, c) ← anchorName c
    return (.alias name, c)
  else if x = '&' then l.keyToken fun c => do
    let (name, c) ← anchorName c
    return (.anchor name, c)
  else if x = '!' then l.keyToken fun c => do
    let (name, c) ← tagName c
    return (.tag name, c)
  else if x = '|' && !inFlow then l.blockScalar false
  else if x = '>' && !inFlow then l.blockScalar true
  else if x = '\'' then l.quotedScalar false
  else if x = '"' then l.quotedScalar true
  else if beginsPlain inFlow x (c.peekAt 1) then l.plainScalar
  else (c.lookAhead 2).refuse

def requireMore (l : Lexer) : Except Fault Unit :=
  if l.cursor.rest.isEmpty && l.cursor.trouble.isSome then l.cursor.refuse else .ok ()

def finish (l : Lexer) : Except Fault Lexer := do
  let l ← l.closeAll.removeKey
  return { l with keys := [], isDone := true }

def fetch (l : Lexer) : Except Fault Lexer := do
  let l := skipToToken (l.cursor.rest.length + 1) l
  l.requireMore
  let l ← l.expireKeys
  let l := l.closeDeeper (l.cursor.column < ·)
  let l ←
    match l.cursor.peek with
    | some x => l.token x
    | none   => l.finish
  l.requireMore
  return l

def isOpen (l : Lexer) : Bool :=
  (l.keys.map fun (_, k) => k.position).min? = some l.taken

def demand : Nat → Lexer → Except Fault Lexer
  | 0,        l => return l
  | fuel + 1, l => do
    if l.isDone then return l
    else if l.queue.isEmpty then demand fuel (← l.fetch)
    else
      let l ← l.expireKeys
      if l.isOpen then demand fuel (← l.fetch) else return l

def upcoming (l : Lexer) : Except Fault Lexer :=
  demand (l.cursor.rest.length + 2) l

def advance (l : Lexer) : Lexer :=
  { l with queue := l.queue.tail, taken := l.taken + 1 }

end Lexer
end Chatline.Yaml
