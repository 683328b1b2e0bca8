import Chatline.Chat
import Chatline.Datum
import Chatline.Handle
import Chatline.Provider
import Chatline.Table
import Chatline.Template

namespace Chatline

-- A part of what an event is about. A chat message is referred to, so that the event has only one.
inductive Item
  | message
  | template (t : Template)
  | kind (k : Kind)
  | provider (p : ProviderId)
  | data (d : Datum)

structure Payload where
  message : Option ChatMessage
  entries : Table String Item

namespace Payload

def chatKey : String := "chat"
def templateKey : String := "template"
def kindKey : String := "kind"
def providerKey : String := "provider"

def ofEntries (entries : Table String Item) : Payload :=
  { message := none, entries }

def ofChat (m : ChatMessage) : Payload :=
  { message := some m, entries := Table.empty.set chatKey .message }

def ofTemplate (t : Template) : Payload :=
  ofEntries (Table.empty.set templateKey (.template t))

def ofProvider (k : Kind) (p : ProviderId) : Payload :=
  ofEntries ((Table.empty.set kindKey (.kind k)).set providerKey (.provider p))

def chat (p : Payload) : Except Failure ChatMessage :=
  match p.entries.get? chatKey, p.message with
  | some .message, some m => .ok m
  | none, _               => .error (.missingEntry chatKey)
  | _, _                  => .error (.wrongEntry chatKey)

def setChat (p : Payload) (m : ChatMessage) : Payload :=
  { p with message := some m }

def put (p : Payload) (key : String) (item : Item) : Payload :=
  { p with entries := p.entries.set key item }

def kind? (p : Payload) : Option Kind :=
  match p.entries.get? kindKey with
  | some (.kind k) => some k
  | _              => none

theorem chat_ofChat (m : ChatMessage) : (ofChat m).chat = .ok m := by
  simp [chat, ofChat, Table.get?_set]

theorem kind?_ofProvider (k : Kind) (p : ProviderId) : (ofProvider k p).kind? = some k := by
  simp [kind?, ofProvider, ofEntries, Table.get?_set, kindKey, providerKey]

end Payload
end Chatline
