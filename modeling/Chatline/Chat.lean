import Chatline.Identity
import Chatline.Line

namespace Chatline

structure Player where
  identity    : Identity
  name        : String
  displayName : Option String
  deriving DecidableEq, Repr

namespace Player

def offline (name : String) (displayName : Option String) : Player :=
  { identity := .ofName .oidSpace ("OfflinePlayer:" ++ name), name, displayName }

def shownName (p : Player) : String :=
  p.displayName.getD p.name

end Player

-- A chat message on its way to the readers. The format is a working copy: it starts as the host's own
-- and is edited by whoever observes the message.
structure ChatMessage where
  player : Player
  body   : String
  format : String
  deriving DecidableEq, Repr

namespace ChatMessage

def hostFormat : String := "<%1$s> %2$s"

def new (player : Player) (body : String) : ChatMessage :=
  { player, body, format := hostFormat }

def render (m : ChatMessage) : String :=
  Line.render m.format m.player.shownName m.body

end ChatMessage
end Chatline
