import Chatline.Dispatch

namespace Chatline

inductive Act (ξ : Type)
  | openBus
  | closeBus
  | openDirectory (bus : Option BusId)
  | introduce (provider : Provider)
  | amend (id : ProviderId) (provider : Provider)
  | subscribe (bus : BusId) (topic : String) (priority : Priority) (guest : ξ)
  | unsubscribe (id : SubscriptionId)
  | emit (bus : BusId) (topic source : String) (payload : Payload)
  | register (directory : DirectoryId) (kind : Kind) (provider : ProviderId)
  | unregister (directory : DirectoryId) (kind : Kind) (provider : ProviderId)
  | attach (configPath : Option String) (savesDefault : Bool) (bus : Option BusId)
      (directory : Option DirectoryId)
  | enable (plugin : PluginId) (settings : Option Settings)
  | disable (plugin : PluginId)
  | command (plugin : PluginId) (args : List String)
  | reload (plugin : PluginId) (format : Option String)
  | refresh (plugin : PluginId)
  | publish (bus : BusId) (player : Player) (body : String)
  | supply (path : Path) (content : Option (List UInt8))
  | remove (path : Path)
  | setEnvironment (environment : Environment)

namespace Act

abbrev Reply {ξ : Type} : Act ξ → Type
  | openBus             => BusId
  | openDirectory _     => DirectoryId
  | introduce _         => ProviderId
  | subscribe _ _ _ _   => SubscriptionId
  | emit _ _ _ _        => Envelope × Payload
  | unregister _ _ _    => Bool
  | attach _ _ _ _      => PluginId
  | command _ _         => Host.CommandReply
  | reload _ _          => Template
  | publish _ _ _       => ChatMessage
  | _                   => Unit

def carryOut {ξ σ : Type} (guests : Guests ξ σ) :
    (a : Act ξ) → Host ξ σ → Except Failure a.Reply × Host ξ σ
  | openBus, h                 => let (b, h) := h.openBus; (.ok b, h)
  | closeBus, h                => (.ok (), { h with mainBus := none })
  | openDirectory bus, h       => let (d, h) := h.openDirectory bus; (.ok d, h)
  | introduce p, h             => let (id, h) := h.introduce p; (.ok id, h)
  | amend id p, h              => (.ok (), h.amend id p)
  | subscribe b topic priority x, h =>
    let (id, h) := h.subscribe b topic priority (.guest x)
    (.ok id, h)
  | unsubscribe id, h          => (.ok (), h.unsubscribe id)
  | emit b topic source p, h   => let (r, h) := h.emit guests b topic source p; (.ok r, h)
  | register d k p, h          => (.ok (), h.register guests d k p)
  | unregister d k p, h        => let (r, h) := h.unregister guests d k p; (.ok r, h)
  | attach path saves b d, h   => let (id, h) := h.attach path saves b d; (.ok id, h)
  | enable id settings, h      => h.enable guests id settings
  | disable id, h              => (.ok (), h.disable id)
  | command id args, h         => h.command guests id args
  | reload id format, h        => let (t, h) := h.reload id format; (.ok t, h)
  | refresh id, h              => h.refresh id
  | publish b player body, h   => let (m, h) := h.publish guests b player body; (.ok m, h)
  | supply path content, h     =>
    let (r, files) := FileTree.supply path content h.files
    (r, { h with files })
  | remove path, h             => (.ok (), { h with files := h.files.remove path })
  | setEnvironment e, h        => (.ok (), { h with environment := e })

end Act

-- What someone does with a host: a tree of acts, each followed by what depends on its reply. One may
-- also look at the host at any time, and keep things in the memory of the guests.
inductive Program (ξ σ α : Type)
  | done (a : α)
  | look (next : Host ξ σ → Program ξ σ α)
  | keep (memory : σ) (next : Program ξ σ α)
  | act (a : Act ξ) (next : Except Failure a.Reply → Program ξ σ α)

namespace Program

variable {ξ σ α β : Type}

protected def bind (p : Program ξ σ α) (f : α → Program ξ σ β) : Program ξ σ β :=
  match p with
  | done a        => f a
  | look next     => look fun h => (next h).bind f
  | keep m next   => keep m (next.bind f)
  | .act a next   => .act a fun r => (next r).bind f

instance : Monad (Program ξ σ) where
  pure := done
  bind := Program.bind

def host : Program ξ σ (Host ξ σ) :=
  look done

def perform (a : Act ξ) : Program ξ σ (Except Failure a.Reply) :=
  .act a done

def run (performing : (a : Act ξ) → Host ξ σ → Except Failure a.Reply × Host ξ σ) :
    Program ξ σ α → Host ξ σ → α × Host ξ σ
  | done a, h      => (a, h)
  | look next, h   => (next h).run performing h
  | keep m next, h => next.run performing { h with memory := m }
  | .act a next, h =>
    let (r, h) := performing a h
    (next r).run performing h

end Program

abbrev Behaviour (ξ σ : Type) := ξ → Event → Program ξ σ Reaction

namespace Host

variable {ξ σ : Type}

-- Performs an act. Acts may nest, since guests act while they are being notified, but no deeper than
-- `depth` levels: an act at the bottom is refused.
def perform (behave : Behaviour ξ σ) :
    Nat → (a : Act ξ) → Host ξ σ → Except Failure a.Reply × Host ξ σ
  | 0, _, h         => (.error .tooDeep, h)
  | depth + 1, a, h => a.carryOut (fun x e => (behave x e).run (perform behave depth)) h

end Host
end Chatline
