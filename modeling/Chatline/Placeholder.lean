import Chatline.Inquiry
import Chatline.Text.Find

namespace Chatline

inductive Placeholder
  | name
  | displayName
  | message
  | prefixText
  | suffixText
  | verifierBadge
  deriving DecidableEq, Repr

namespace Placeholder

def all : List Placeholder :=
  [name, displayName, message, prefixText, suffixText, verifierBadge]

theorem mem_all (p : Placeholder) : p ∈ all := by
  cases p <;> decide

def title : Placeholder → String
  | name          => "NAME"
  | displayName   => "DISPLAYNAME"
  | message       => "MESSAGE"
  | prefixText    => "PREFIX"
  | suffixText    => "SUFFIX"
  | verifierBadge => "VERIFIER_BADGE"

def spelling : Placeholder → String
  | name          => "\x7bname\x7d"
  | displayName   => "\x7bdisplayname\x7d"
  | message       => "\x7bmessage\x7d"
  | prefixText    => "\x7bprefix\x7d"
  | suffixText    => "\x7bsuffix\x7d"
  | verifierBadge => "\x7bverifier-badge\x7d"

def ofSpelling? (s : String) : Option Placeholder :=
  all.find? (·.spelling == s)

def slot? : Placeholder → Option String
  | displayName => some "%1$s"
  | message     => some "%2$s"
  | _           => none

def compiledOnLoad (p : Placeholder) : Bool :=
  p.slot?.isSome

def occursIn (p : Placeholder) (text : String) : Bool :=
  Text.occurs p.spelling.toList text.toList

def replace (p : Placeholder) (value text : String) : String :=
  .ofList (Text.replace p.spelling.toList value.toList text.toList)

-- Replaces the placeholder by a value that is asked for only if there is something to replace, and
-- then only once. Without a value the placeholder stays as it is.
def fill {κ : Type} (p : Placeholder) (supply : Inquiry κ (Option String)) (text : String) :
    Inquiry κ String := do
  if p.occursIn text then
    match ← supply with
    | none       => return text
    | some value => return p.replace value text
  else
    return text

theorem fill_of_not_occursIn {κ : Type} {p : Placeholder} {text : String}
    (h : p.occursIn text = false) (supply : Inquiry κ (Option String)) :
    p.fill supply text = pure text := by
  simp [fill, h]

end Placeholder
end Chatline
