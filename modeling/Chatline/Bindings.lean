import Chatline.Handle
import Chatline.Provider
import Chatline.Resolution

namespace Chatline

structure Asked where
  provider : ProviderId
  request  : Request
  deriving DecidableEq, Repr

-- The providers that a plugin works with. They are replaced as a whole, so that one message is always
-- formatted with one set of them.
structure Bindings where
  chatMeta         : Option ProviderId := none
  accounts         : Option ProviderId := none
  verifierPrefixes : Option ProviderId := none
  deriving DecidableEq, Repr, Inhabited

namespace Bindings

variable (providers : ProviderId → Provider)

def ask (p : ProviderId) (r : Request) : Inquiry Asked (Option String) :=
  Inquiry.ask { provider := p, request := r } ((providers p).answer r)

-- The badge of a player is that of the verifier of the player's account. Without an account, there is
-- no verifier to ask about.
def badge (accounts registry : ProviderId) : Lookup Asked := fun identity => do
  match ← ask providers accounts (.account identity) with
  | none          => return none
  | some verifier => ask providers registry (.badge verifier)

def context (b : Bindings) (m : ChatMessage) : Context Asked where
  identity     := m.player.identity
  name         := m.player.name
  body         := m.body
  prefixLookup := b.chatMeta.map fun p identity => ask providers p (.playerPrefix identity)
  suffixLookup := b.chatMeta.map fun p identity => ask providers p (.playerSuffix identity)
  badgeLookup  := do return badge providers (← b.accounts) (← b.verifierPrefixes)

def format (b : Bindings) (m : ChatMessage) : Inquiry Asked ChatMessage := do
  return { m with format := ← (b.context providers m).resolve m.format }

end Bindings
end Chatline
