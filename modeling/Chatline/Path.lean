namespace Chatline

inductive PathStart
  | here
  | root
  | otherRoot
  deriving DecidableEq, Repr

-- The way to a file. Steps to the same place are left out, but steps back are kept: what they lead back
-- from need not be what it seems.
structure Path where
  start : PathStart
  parts : List String
  deriving DecidableEq, Repr

namespace Path

def ofText (s : String) : Path :=
  let slashes := (s.toList.takeWhile (· = '/')).length
  { start := if slashes = 0 then .here else if slashes = 2 then .otherRoot else .root
    parts := ((s.toList.splitOn '/').map .ofList).filter fun part => part ≠ "" && part ≠ "." }

def toText (p : Path) : String :=
  let tail := "/".intercalate p.parts
  match p.start with
  | .here      => if p.parts.isEmpty then "." else tail
  | .root      => "/" ++ tail
  | .otherRoot => "//" ++ tail

def parent (p : Path) : Path :=
  { p with parts := p.parts.dropLast }

end Path
end Chatline
