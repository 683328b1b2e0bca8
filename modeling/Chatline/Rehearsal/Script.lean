import Chatline.Program

namespace Chatline.Rehearsal

structure Offer where
  kind     : Kind
  name     : String                             := "in-memory"
  prefixes : List (Identity × Option String)    := []
  suffixes : List (Identity × Option String)    := []
  accounts : List (Identity × Option String)    := []
  badges   : List (String × Option String)      := []
  failure  : Option String                      := none

namespace Offer

def reply {κ : Type} [BEq κ] (failure : Option String) (answers : List (κ × Option String)) (k : κ) :
    Reply :=
  match failure with
  | some reason => .error (.raised reason)
  | none        => .ok (answers.lookup k).join

def provider (o : Offer) : Provider :=
  match o.kind with
  | .accounts         => .accounts (reply o.failure o.accounts)
  | .verifierPrefixes => .verifierPrefixes (reply o.failure o.badges)
  | _                 => .chatMeta o.name (reply o.failure o.prefixes) (reply o.failure o.suffixes)

end Offer

structure OfferChange where
  name     : Option String
  prefixes : Option (List (Identity × Option String))
  suffixes : Option (List (Identity × Option String))
  accounts : Option (List (Identity × Option String))
  badges   : Option (List (String × Option String))
  failure  : Option (Option String)

def Offer.change (o : Offer) (c : OfferChange) : Offer where
  kind     := o.kind
  name     := c.name.getD o.name
  prefixes := c.prefixes.getD o.prefixes
  suffixes := c.suffixes.getD o.suffixes
  accounts := c.accounts.getD o.accounts
  badges   := c.badges.getD o.badges
  failure  := c.failure.getD o.failure

-- A payload that a script spells out, and where in the script it does. Events carry this payload itself and no
-- copy of it: what their observers put into it is still there when the script comes back to its place.
structure Detail where
  place   : List Nat
  entries : List (String × Datum)

mutual

inductive Step
  | on (name topic : String) (priority : Priority) (actions : List Action)
  | off (name : String)
  | emit (topic source : String) (detail : Option Detail) (times : Nat)
  | count (topic : String)
  | sequence
  | history (limit : Option Int)
  | summary (limit : Option Int)
  | sameBus
  | reset
  | introduce (name : String) (kind : Kind) (change : OfferChange)
  | amend (name : String) (change : OfferChange)
  | register (kind : Kind) (name : String)
  | unregister (kind : Kind) (name : String)
  | active (kind : Kind)
  | attach (name : String) (configPath : Option String) (savesDefault ownServices : Bool)
  | enable (name : String) (settings : Option Settings)
  | disable (name : String)
  | command (name : String) (args : List String)
  | reload (name : String) (format : Option String)
  | refresh (name : String)
  | template (name : String)
  | bindings (name : String)
  | chat (player : Player) (body : String)
  | supply (path : Path) (content : Option (List UInt8))
  | remove (path : Path)
  | files
  | setEnvironment (environment : Environment)

inductive Action
  | wrapFormat (before after : String)
  | setFormat (format : String)
  | setBody (body : String)
  | put (key : String) (value : Datum)
  | raise (reason : String)
  | step (s : Step)

end

structure Actor where
  name    : String
  actions : List Action

inductive ShownItem
  | message (format body : String)
  | template (t : Template)
  | kind (title : String)
  | provider (name : Option String)
  | data (d : Datum)

abbrev ShownPayload := List (String × ShownItem)

structure Notice where
  actor    : String
  envelope : Envelope
  payload  : ShownPayload

inductive Answer
  | nothing
  | flag (b : Bool)
  | number (n : Nat)
  | name (s : Option String)
  | names (ss : List (Option String))
  | texts (ss : List String)
  | summary (count : Nat) (first last : List String)
  | event (envelope : Envelope) (payload : ShownPayload)
  | template (t : Template)
  | command (reply : Host.CommandReply)
  | chat (m : ChatMessage)
  | files (listing : List (String × List UInt8))

structure Stage where
  bus           : BusId
  directory     : DirectoryId
  subscriptions : Table String SubscriptionId
  offers        : Table String (ProviderId × Offer)
  labels        : Table ProviderId String
  plugins       : Table String PluginId
  details       : Table (List Nat) (Table String Item)
  notices       : List Notice

end Chatline.Rehearsal
