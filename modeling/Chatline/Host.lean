import Chatline.Bindings
import Chatline.Bus
import Chatline.Directory
import Chatline.Payload
import Chatline.Record
import Chatline.Settings

namespace Chatline

structure Plugin where
  configPath    : Option String
  bus           : BusId
  directory     : DirectoryId
  savesDefault  : Bool
  template      : Template
  bindings      : Bindings
  subscriptions : List SubscriptionId
  deriving Inhabited

-- Whoever listens on a bus. A plugin puts its template on a message, resolves what is left in the format
-- and binds providers anew. Guests are not part of the formatter.
inductive Observer (ξ : Type)
  | installer (plugin : PluginId)
  | resolver (plugin : PluginId)
  | rebinder (plugin : PluginId)
  | guest (x : ξ)

-- A chat host: its buses, directories, providers and plugins, the files and the environment around it,
-- and what has been logged and asked so far. Guests of type `ξ` share a memory of type `σ`.
structure Host (ξ σ : Type) where
  mainBus     : Option BusId
  buses       : Table BusId (Bus (Observer ξ))
  directories : Table DirectoryId Directory
  providers   : Table ProviderId Provider
  plugins     : Table PluginId Plugin
  files       : FileTree
  environment : Environment
  log         : List Record
  asked       : List Asked
  memory      : σ
  fresh       : Nat

namespace Host

variable {ξ σ : Type}

def new (files : FileTree) (environment : Environment) (memory : σ) : Host ξ σ where
  mainBus     := none
  buses       := .empty
  directories := .empty
  providers   := .empty
  plugins     := .empty
  files       := files
  environment := environment
  log         := []
  asked       := []
  memory      := memory
  fresh       := 0

def bus (h : Host ξ σ) (b : BusId) : Bus (Observer ξ) :=
  (h.buses.get? b).getD default

def directory (h : Host ξ σ) (d : DirectoryId) : Directory :=
  (h.directories.get? d).getD default

def provider (h : Host ξ σ) (p : ProviderId) : Provider :=
  (h.providers.get? p).getD (.chatMeta "" (fun _ => .ok none) (fun _ => .ok none))

def plugin (h : Host ξ σ) (p : PluginId) : Plugin :=
  (h.plugins.get? p).getD default

def note (h : Host ξ σ) (r : Record) : Host ξ σ :=
  { h with log := h.log ++ [r] }

def noteAll (h : Host ξ σ) (rs : List Record) : Host ξ σ :=
  { h with log := h.log ++ rs }

def setBus (h : Host ξ σ) (id : BusId) (b : Bus (Observer ξ)) : Host ξ σ :=
  { h with buses := h.buses.set id b }

def setDirectory (h : Host ξ σ) (id : DirectoryId) (d : Directory) : Host ξ σ :=
  { h with directories := h.directories.set id d }

def setPlugin (h : Host ξ σ) (id : PluginId) (p : Plugin) : Host ξ σ :=
  { h with plugins := h.plugins.set id p }

def openBus (h : Host ξ σ) : BusId × Host ξ σ :=
  match h.mainBus with
  | some b => (b, h)
  | none   =>
    let b : BusId := ⟨h.fresh⟩
    (b, { h with mainBus := some b, fresh := h.fresh + 1 }.note .busOpened)

def openDirectory (h : Host ξ σ) (bus : Option BusId) : DirectoryId × Host ξ σ :=
  let (bus, h) := match bus with
    | some b => (b, h)
    | none   => h.openBus
  let d : DirectoryId := ⟨h.fresh⟩
  (d, { h.setDirectory d { bus, entries := [] } with fresh := h.fresh + 1 })

def introduce (h : Host ξ σ) (p : Provider) : ProviderId × Host ξ σ :=
  let id : ProviderId := ⟨h.fresh⟩
  (id, { h with providers := h.providers.set id p, fresh := h.fresh + 1 })

def amend (h : Host ξ σ) (id : ProviderId) (p : Provider) : Host ξ σ :=
  { h with providers := h.providers.set id p }

def subscribe (h : Host ξ σ) (bus : BusId) (topic : String) (priority : Priority)
    (observer : Observer ξ) : SubscriptionId × Host ξ σ :=
  let id : SubscriptionId := { bus, serial := (h.bus bus).subscribed }
  (id, (h.setBus bus ((h.bus bus).subscribe topic priority observer)).note (.subscribed id topic priority))

def unsubscribe (h : Host ξ σ) (id : SubscriptionId) : Host ξ σ :=
  if (h.bus id.bus).isLive id.serial then
    (h.setBus id.bus ((h.bus id.bus).unsubscribe id.serial)).note (.unsubscribed id)
  else h

def active (h : Host ξ σ) (d : DirectoryId) (k : Kind) : Option ProviderId :=
  (h.directory d).active k

def attach (h : Host ξ σ) (configPath : Option String) (savesDefault : Bool)
    (bus : Option BusId) (directory : Option DirectoryId) : PluginId × Host ξ σ :=
  let (bus, h) := match bus with
    | some b => (b, h)
    | none   => h.openBus
  let (directory, h) := match directory with
    | some d => (d, h)
    | none   => h.openDirectory (some bus)
  let id : PluginId := ⟨h.fresh⟩
  let p : Plugin := {
    configPath, bus, directory, savesDefault
    template := .compile none, bindings := {}, subscriptions := [] }
  (id, { h.setPlugin id p with fresh := h.fresh + 1 })

def reload (h : Host ξ σ) (id : PluginId) (format : Option String) : Template × Host ξ σ :=
  let template := Template.compile format
  (template, (h.setPlugin id { h.plugin id with template }).note (.formatLoaded template.text))

-- Binds the active source of prefixes and suffixes. A change is logged with the name of the source, so
-- the source has to have one.
def refreshChatMeta (h : Host ξ σ) (id : PluginId) : Except Failure Unit × Host ξ σ :=
  let p := h.plugin id
  let now := h.active p.directory .chatMeta
  let bound := { p with bindings := { p.bindings with chatMeta := now } }
  if now = p.bindings.chatMeta then (.ok (), h)
  else
    match now.mapM fun q => (h.provider q).name? with
    | .error e => (.error e, h)
    | .ok name => (.ok (), (h.setPlugin id bound).note (.chatMetaChanged name))

def refreshVerifiers (h : Host ξ σ) (id : PluginId) : Host ξ σ :=
  let p := h.plugin id
  let accounts := h.active p.directory .accounts
  let verifierPrefixes := h.active p.directory .verifierPrefixes
  let records :=
    (if accounts = p.bindings.accounts then [] else [Record.accountsChanged]) ++
    (if verifierPrefixes = p.bindings.verifierPrefixes then [] else [Record.verifierPrefixesChanged])
  (h.setPlugin id { p with bindings := { p.bindings with accounts, verifierPrefixes } }).noteAll records

def rebind (h : Host ξ σ) (id : PluginId) (kind : Option Kind) : Except Failure Unit × Host ξ σ :=
  match kind with
  | some .chatMeta         => h.refreshChatMeta id
  | some .accounts         => (.ok (), h.refreshVerifiers id)
  | some .verifierPrefixes => (.ok (), h.refreshVerifiers id)
  | _                      => (.ok (), h)

def loadSettings (h : Host ξ σ) (configPath : Option String) : Except Failure Settings × Host ξ σ :=
  let (settings, records) := Settings.load h.files h.environment configPath
  (settings, h.noteAll records)

def saveDefault (h : Host ξ σ) (configPath : Option String) : Except Failure Bool × Host ξ σ :=
  let (written, files) := (Settings.saveDefault h.environment configPath : FileOp Bool) h.files
  let h := { h with files }
  match written with
  | .ok true => (written, h.note (.defaultsWritten (Settings.resolvePath h.environment configPath).toText))
  | _        => (written, h)

end Host
end Chatline
