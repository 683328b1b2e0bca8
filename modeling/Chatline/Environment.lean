namespace Chatline

structure Environment where
  format     : Option String := none
  level      : Option String := none
  configPath : Option String := none
  deriving DecidableEq, Repr, Inhabited

namespace Environment

def nonempty? : Option String → Option String
  | some s => if s.isEmpty then none else some s
  | none   => none

def format? (e : Environment) : Option String := nonempty? e.format
def level? (e : Environment) : Option String := nonempty? e.level
def configPath? (e : Environment) : Option String := nonempty? e.configPath

end Environment
end Chatline
