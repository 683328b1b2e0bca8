import Chatline.Failure

namespace Chatline

inductive LogLayout
  | simple
  | detailed
  deriving DecidableEq, Repr

namespace LogLayout

def title : LogLayout → String
  | simple   => "simple"
  | detailed => "detailed"

def ofTitle? (s : String) : Option LogLayout :=
  [simple, detailed].find? (·.title = s)

def pattern : LogLayout → String
  | simple   => "%(levelname)s: %(message)s"
  | detailed => "%(asctime)s [%(levelname)s] %(name)s: %(message)s"

end LogLayout

structure LogSetup where
  level   : Nat
  pattern : String
  deriving DecidableEq, Repr

namespace LogSetup

def levels : List (String × Nat) :=
  [("NOTSET", 0), ("DEBUG", 10), ("INFO", 20), ("WARNING", 30), ("WARN", 30), ("ERROR", 40),
   ("CRITICAL", 50), ("FATAL", 50)]

def levelOf (name : String) : Nat :=
  (levels.lookup name).getD 20

def of (level : String) (layout : LogLayout) : LogSetup :=
  { level := levelOf level, pattern := layout.pattern }

def ofNames (level layout : String) : Except Failure LogSetup :=
  match LogLayout.ofTitle? layout with
  | some layout => .ok (of level layout)
  | none        => .error (.unknownLogFormat layout)

end LogSetup
end Chatline
