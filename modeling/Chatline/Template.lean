import Chatline.Color
import Chatline.Placeholder

namespace Chatline

structure Template where
  raw  : String
  text : String
  deriving DecidableEq, Repr, Inhabited

namespace Template

def defaultFormat : String :=
  "<" ++ Placeholder.prefixText.spelling ++ Placeholder.name.spelling ++
    Placeholder.suffixText.spelling ++ "> " ++ Placeholder.message.spelling

-- Replaces the placeholders that are known on load by their slots, in the order of `Placeholder.all`.
def insertSlots (source : String) : String :=
  Placeholder.all.foldl (fun text p => (p.slot?.map (p.replace · text)).getD text) source

def compile (raw : Option String) : Template :=
  let source := raw.getD defaultFormat
  { raw := source, text := .ofList (Color.colorize (insertSlots source).toList) }

theorem insertSlots_eq (source : String) :
    insertSlots source =
      Placeholder.message.replace "%2$s" (Placeholder.displayName.replace "%1$s" source) :=
  rfl

end Template
end Chatline
