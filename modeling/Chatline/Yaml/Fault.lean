import Chatline.Failure

namespace Chatline.Yaml

-- Why a text does not stand for a value. Besides texts that are not well-formed there are those that
-- spell a value out in a way that makes none, and those that cannot be read to the end.
inductive Fault
  | malformed
  | unusable (failure : Failure)
  deriving DecidableEq, Repr

namespace Fault

def ofFailure {α : Type} : Except Failure α → Except Fault α
  | .ok a    => .ok a
  | .error e => .error (.unusable e)

end Fault
end Chatline.Yaml
