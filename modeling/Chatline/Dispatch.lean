import Chatline.Host

namespace Chatline

structure Event where
  envelope : Envelope
  payload  : Payload

structure Reaction where
  payload : Payload
  failure : Option Failure

abbrev Guests (ξ σ : Type) := ξ → Event → Host ξ σ → Reaction × Host ξ σ

namespace Host

variable {ξ σ : Type}

def install (h : Host ξ σ) (id : PluginId) (p : Payload) : Reaction :=
  match p.chat with
  | .error e => { payload := p, failure := some e }
  | .ok m    =>
    { payload := p.setChat { m with format := (h.plugin id).template.text }, failure := none }

def resolve (h : Host ξ σ) (id : PluginId) (p : Payload) : Reaction × Host ξ σ :=
  match p.chat with
  | .error e => ({ payload := p, failure := some e }, h)
  | .ok m    =>
    let inquiry := (h.plugin id).bindings.format h.provider m
    let h := { h with asked := h.asked ++ inquiry.asked }
    match inquiry.outcome with
    | .error e => ({ payload := p, failure := some e }, h)
    | .ok m    => ({ payload := p.setChat m, failure := none }, h)

def react (guests : Guests ξ σ) (h : Host ξ σ) (observer : Observer ξ) (e : Event) :
    Reaction × Host ξ σ :=
  match observer with
  | .installer id => (h.install id e.payload, h)
  | .resolver id  => h.resolve id e.payload
  | .rebinder id  =>
    match h.rebind id e.payload.kind? with
    | (.ok (), h)    => ({ payload := e.payload, failure := none }, h)
    | (.error e', h) => ({ payload := e.payload, failure := some e' }, h)
  | .guest x      => guests x e h

def noteFailure (h : Host ξ σ) (b : BusId) (e : Envelope) (failure : Option Failure) : Host ξ σ :=
  match failure with
  | none   => h
  | some f => h.note (.handlerFailed b e f.message)

-- Delivers an event to subscribers, one after the other. What one of them makes of the payload is what
-- the next one is given.
def deliver (guests : Guests ξ σ) (b : BusId) (e : Envelope) :
    List (Subscription (Observer ξ)) → Payload → Host ξ σ → Payload × Host ξ σ
  | [],      p, h => (p, h)
  | s :: ss, p, h =>
    let (r, h) := (h.note (.delivered b e s.serial)).react guests s.observer { envelope := e, payload := p }
    deliver guests b e ss r.payload (h.noteFailure b e r.failure)

def emit (guests : Guests ξ σ) (h : Host ξ σ) (b : BusId) (topic source : String) (p : Payload) :
    (Envelope × Payload) × Host ξ σ :=
  let (e, bus) := (h.bus b).number topic source
  let subscribers := bus.live topic
  let (p, h) := deliver guests b e subscribers p ((h.setBus b bus).note (.emitted b e))
  ((e, p), h)

def register (guests : Guests ξ σ) (h : Host ξ σ) (d : DirectoryId) (k : Kind) (p : ProviderId) :
    Host ξ σ :=
  let h := (h.setDirectory d ((h.directory d).register k p)).note (.registered d k p)
  (h.emit guests (h.directory d).bus Directory.registered Directory.source (.ofProvider k p)).2

def unregister (guests : Guests ξ σ) (h : Host ξ σ) (d : DirectoryId) (k : Kind) (p : ProviderId) :
    Bool × Host ξ σ :=
  if (h.directory d).holds k p then
    let h := (h.setDirectory d ((h.directory d).unregister k p)).note (.unregistered d k p)
    (true, (h.emit guests (h.directory d).bus Directory.unregistered Directory.source (.ofProvider k p)).2)
  else
    (false, h)

def chatTopic : String := "player:chat"
def chatSource : String := "host"
def reloadedTopic : String := "format:reloaded"
def reloadedSource : String := "ChatFormatterPlugin"

def publish (guests : Guests ξ σ) (h : Host ξ σ) (b : BusId) (player : Player) (body : String) :
    ChatMessage × Host ξ σ :=
  let m := ChatMessage.new player body
  let ((_, p), h) := h.emit guests b chatTopic chatSource (.ofChat m)
  (p.message.getD m, h)

def settle (h : Host ξ σ) (id : PluginId) (settings : Option Settings) :
    Except Failure Template × Host ξ σ :=
  let (loaded, h) : Except Failure Settings × Host ξ σ := match settings with
    | some s => (.ok s, h)
    | none   => h.loadSettings (h.plugin id).configPath
  match loaded with
  | .error e => (.error e, h)
  | .ok s    =>
    let (template, h) := h.reload id s.format
    (.ok template, h)

def reloadSettings (guests : Guests ξ σ) (h : Host ξ σ) (id : PluginId) (settings : Option Settings) :
    Except Failure Template × Host ξ σ :=
  match h.settle id settings with
  | (.error e, h)     => (.error e, h)
  | (.ok template, h) =>
    let (_, h) := h.emit guests (h.plugin id).bus reloadedTopic reloadedSource (.ofTemplate template)
    (.ok template, h)

def listen (h : Host ξ σ) (id : PluginId) : Host ξ σ :=
  let bus := (h.plugin id).bus
  let (s₁, h) := h.subscribe bus chatTopic .lowest (.installer id)
  let (s₂, h) := h.subscribe bus chatTopic .highest (.resolver id)
  let (s₃, h) := h.subscribe bus Directory.registered .normal (.rebinder id)
  let (s₄, h) := h.subscribe bus Directory.unregistered .normal (.rebinder id)
  h.setPlugin id { h.plugin id with subscriptions := [s₁, s₂, s₃, s₄] }

def provideDefault (h : Host ξ σ) (id : PluginId) : Except Failure Bool × Host ξ σ :=
  if (h.plugin id).savesDefault then h.saveDefault (h.plugin id).configPath else (.ok false, h)

-- Puts a plugin to work: settings first, then providers, then subscriptions.
def enable (guests : Guests ξ σ) (h : Host ξ σ) (id : PluginId) (settings : Option Settings) :
    Except Failure Unit × Host ξ σ :=
  match h.provideDefault id with
  | (.error e, h) => (.error e, h)
  | (.ok _, h)    =>
    match h.reloadSettings guests id settings with
    | (.error e, h) => (.error e, h)
    | (.ok _, h)    =>
      match h.refreshChatMeta id with
      | (.error e, h) => (.error e, h)
      | (.ok (), h)   => (.ok (), (h.refreshVerifiers id).listen id)

def disable (h : Host ξ σ) (id : PluginId) : Host ξ σ :=
  let h := (h.plugin id).subscriptions.foldl unsubscribe h
  h.setPlugin id { h.plugin id with subscriptions := [] }

structure CommandReply where
  handled  : Bool
  messages : List String
  deriving DecidableEq, Repr

def command (guests : Guests ξ σ) (h : Host ξ σ) (id : PluginId) (args : List String) :
    Except Failure CommandReply × Host ξ σ :=
  if args.head?.any (·.map Char.toLower == "reload") then
    match h.reloadSettings guests id none with
    | (.error e, h) => (.error e, h)
    | (.ok _, h)    => (.ok { handled := true, messages := ["Reloaded successfully."] }, h)
  else
    (.ok { handled := false, messages := [] }, h)

def refresh (h : Host ξ σ) (id : PluginId) : Except Failure Unit × Host ξ σ :=
  match h.refreshChatMeta id with
  | (.error e, h) => (.error e, h)
  | (.ok (), h)   => (.ok (), h.refreshVerifiers id)

end Host
end Chatline
