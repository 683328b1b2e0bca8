import Chatline.Failure
import Chatline.Identity

namespace Chatline

inductive Kind
  | chatMeta
  | accounts
  | verifierPrefixes
  | other (title : String)
  deriving DecidableEq, Repr

-- The answer of a provider, which is `none` where there is nothing to tell.
abbrev Reply := Except Failure (Option String)

inductive Provider
  | chatMeta (name : String) (prefixOf suffixOf : Identity → Reply)
  | accounts (verifierOf : Identity → Reply)
  | verifierPrefixes (badgeOf : String → Reply)

inductive Request
  | name
  | playerPrefix (identity : Identity)
  | playerSuffix (identity : Identity)
  | account (identity : Identity)
  | badge (verifier : String)
  deriving DecidableEq, Repr

namespace Request

def title : Request → String
  | name           => "name"
  | playerPrefix _ => "prefix"
  | playerSuffix _ => "suffix"
  | account _      => "account"
  | badge _        => "verifier"

end Request

namespace Provider

def name? : Provider → Except Failure String
  | chatMeta name _ _ => .ok name
  | _                 => .error (.unsupported Request.name.title)

def answer : Provider → Request → Reply
  | chatMeta _ prefixOf _, .playerPrefix identity => prefixOf identity
  | chatMeta _ _ suffixOf, .playerSuffix identity => suffixOf identity
  | accounts verifierOf, .account identity        => verifierOf identity
  | verifierPrefixes badgeOf, .badge verifier     => badgeOf verifier
  | _, request                                    => .error (.unsupported request.title)

end Provider
end Chatline
