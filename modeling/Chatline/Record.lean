import Chatline.Bus
import Chatline.Handle
import Chatline.Provider
import Chatline.Text.Quoted

namespace Chatline

inductive LogLevel
  | debug
  | info
  | warning
  | error
  deriving DecidableEq, Repr

namespace LogLevel

def title : LogLevel → String
  | debug   => "DEBUG"
  | info    => "INFO"
  | warning => "WARNING"
  | error   => "ERROR"

def rank : LogLevel → Nat
  | debug   => 10
  | info    => 20
  | warning => 30
  | error   => 40

end LogLevel

inductive Unreadable
  | file (failure : Failure)
  | malformed
  deriving DecidableEq, Repr

namespace Unreadable

def message : Unreadable → String
  | file failure => failure.message
  | malformed    => "<yaml error>"

end Unreadable

inductive Record
  | busOpened
  | formatLoaded (text : String)
  | chatMetaChanged (name : Option String)
  | accountsChanged
  | verifierPrefixesChanged
  | defaultsWritten (path : String)
  | settingsMissing (path : String)
  | settingsUnreadable (path : String) (reason : Unreadable)
  | settingsNotMap (path : String)
  | formatNotText (typeName : String)
  | handlerFailed (bus : BusId) (event : Envelope) (reason : String)
  | emitted (bus : BusId) (event : Envelope)
  | delivered (bus : BusId) (event : Envelope) (serial : Nat)
  | subscribed (id : SubscriptionId) (topic : String) (priority : Priority)
  | unsubscribed (id : SubscriptionId)
  | registered (directory : DirectoryId) (kind : Kind) (provider : ProviderId)
  | unregistered (directory : DirectoryId) (kind : Kind) (provider : ProviderId)
  deriving DecidableEq, Repr

namespace Record

def level : Record → LogLevel
  | busOpened | formatLoaded _ | chatMetaChanged _ | accountsChanged | verifierPrefixesChanged
  | defaultsWritten _ => .info
  | settingsMissing _ | settingsUnreadable _ _ | settingsNotMap _ | formatNotText _ => .warning
  | handlerFailed _ _ _ => .error
  | emitted _ _ | delivered _ _ _ | subscribed _ _ _ | unsubscribed _ | registered _ _ _
  | unregistered _ _ _ => .debug

def isRoutine (r : Record) : Bool :=
  r.level = .debug

-- The text of a record, with a mark in place of each argument.
def template : Record → String
  | busOpened               => "Chat bus initialized"
  | formatLoaded _          => "Chat format loaded: %r"
  | chatMetaChanged _       => "New chat meta provider registered: %s"
  | accountsChanged         => "Linked account lookup changed"
  | verifierPrefixesChanged => "Verifier prefix registry changed"
  | defaultsWritten _       => "Wrote default config to %s"
  | settingsMissing _       => "Config file %s not found, using the default format"
  | settingsUnreadable _ _  => "Could not read config file %s (%s), using the default format"
  | settingsNotMap _        => "Config file %s is not a mapping, using the default format"
  | formatNotText _         =>
    "Config 'format' must be a string, got %s; using the default format"
  | handlerFailed _ _ _     => "Handler error for '%s': %s"
  | emitted _ _             => "EMIT [%s]: %s from %s"
  | delivered _ _ _         => "RUN [%s]: %s by %s"
  | subscribed _ _ _        => "SUBSCRIBE: '%s' at %s"
  | unsubscribed _          => "UNSUBSCRIBE: %s"
  | registered _ _ _        => "Registered provider %s"
  | unregistered _ _ _      => "Unregistered provider %s"

def arguments : Record → List String
  | busOpened | accountsChanged | verifierPrefixesChanged => []
  | formatLoaded text              => [text]
  | chatMetaChanged name           => [name.getD "null"]
  | defaultsWritten path           => [path]
  | settingsMissing path           => [path]
  | settingsUnreadable path reason => [path, reason.message]
  | settingsNotMap path            => [path]
  | formatNotText typeName         => [typeName]
  | handlerFailed _ event reason   => [event.topic, reason]
  | emitted _ event                => [toString event.sequence, event.topic, event.source]
  | delivered _ event serial       => [toString event.sequence, event.topic, toString serial]
  | subscribed _ topic priority    => [topic, priority.title]
  | unsubscribed id                => [toString id.serial]
  | registered _ _ provider        => [toString provider.number]
  | unregistered _ _ provider      => [toString provider.number]

def fillMarks : List Char → List String → List Char
  | '%' :: 's' :: cs, a :: as => a.toList ++ fillMarks cs as
  | '%' :: 'r' :: cs, a :: as => (Text.quoted a).toList ++ fillMarks cs as
  | c :: cs, as               => c :: fillMarks cs as
  | [], _                     => []

def text (r : Record) : String :=
  .ofList (fillMarks r.template.toList r.arguments)

end Record
end Chatline
