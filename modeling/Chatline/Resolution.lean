import Chatline.Chat
import Chatline.Color
import Chatline.Placeholder

namespace Chatline

abbrev Lookup (κ : Type) := Identity → Inquiry κ (Option String)

-- What the placeholders of one message are resolved from. A lookup that is not available leaves its
-- placeholder in the format.
structure Context (κ : Type) where
  identity     : Identity
  name         : String
  body         : String
  prefixLookup : Option (Lookup κ)
  suffixLookup : Option (Lookup κ)
  badgeLookup  : Option (Lookup κ)

namespace Context

variable {κ : Type}

def badgeText : Option String → Option String
  | none       => none
  | some badge => if badge.isEmpty then none else some (Color.colorizeValue (some badge) ++ " ")

def fillWith (ctx : Context κ) (p : Placeholder) (lookup : Option (Lookup κ))
    (display : Option String → Option String) (format : String) : Inquiry κ String :=
  match lookup with
  | none        => return format
  | some lookup => p.fill (do return display (← lookup ctx.identity)) format

-- Fills in the prefix, the suffix, the badge and the name, each on the text that the one before has
-- left. So a prefix may bring in a placeholder that is filled in later, but none that has had its turn.
def resolve (ctx : Context κ) (format : String) : Inquiry κ String := do
  let format ← ctx.fillWith .prefixText ctx.prefixLookup (some <| Color.colorizeValue ·) format
  let format ← ctx.fillWith .suffixText ctx.suffixLookup (some <| Color.colorizeValue ·) format
  let format ← ctx.fillWith .verifierBadge ctx.badgeLookup badgeText format
  Placeholder.name.fill (return some ctx.name) format

theorem fillWith_none (ctx : Context κ) (p : Placeholder) (display : Option String → Option String)
    (format : String) : ctx.fillWith p none display format = pure format :=
  rfl

end Context
end Chatline
