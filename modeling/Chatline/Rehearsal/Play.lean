import Chatline.Rehearsal.Script

namespace Chatline

def Kind.title : Kind → String
  | chatMeta         => "chat_meta"
  | accounts         => "accounts"
  | verifierPrefixes => "verifier_prefixes"
  | other title      => title

namespace Rehearsal

abbrev Scene (α : Type) := ExceptT Failure (Program Actor Stage) α

def host : Scene (Host Actor Stage) :=
  ExceptT.lift Program.host

def stage : Scene Stage :=
  return (← host).memory

def changeStage (f : Stage → Stage) : Scene Unit := do
  ExceptT.lift (.keep (f (← stage)) (.done ()))

def perform (a : Act Actor) : Scene a.Reply :=
  ExceptT.mk (Program.perform a)

def find {α : Type} (table : Table String α) (name : String) : Scene α :=
  match table.get? name with
  | some a => return a
  | none   => throw (.unknownName name)

def showItem (labels : Table ProviderId String) (message : Option ChatMessage) : Item → ShownItem
  | .message    =>
    match message with
    | some m => .message m.format m.body
    | none   => .data .null
  | .template t => .template t
  | .kind k     => .kind k.title
  | .provider p => .provider (labels.get? p)
  | .data d     => .data d

def showPayload (s : Stage) (p : Payload) : ShownPayload :=
  p.entries.entries.map fun (key, item) => (key, showItem s.labels p.message item)

def payloadOf (s : Stage) : Option Detail → Payload
  | none   => .ofEntries .empty
  | some d =>
    let written := Table.ofList (d.entries.map fun (key, value) => (key, Item.data value))
    .ofEntries ((s.details.get? d.place).getD written)

def leavePayload (detail : Option Detail) (p : Payload) : Scene Unit :=
  match detail with
  | none   => return
  | some d => changeStage fun s => { s with details := s.details.set d.place p.entries }

def emitTimes (topic source : String) (detail : Option Detail) : Nat → Answer → Scene Answer
  | 0,         last => return last
  | times + 1, _    => do
    let s ← stage
    let (e, p) ← perform (.emit s.bus topic source (payloadOf s detail))
    leavePayload detail p
    let shown := showPayload (← stage) p
    emitTimes topic source detail times (.event e shown)

def sessionBus : Scene (Bus (Observer Actor)) := do
  return (← host).bus (← stage).bus

def pluginNamed (name : String) : Scene PluginId := do
  find (← stage).plugins name

def offerNamed (name : String) : Scene (ProviderId × Offer) := do
  find (← stage).offers name

def templateOf (id : PluginId) : Scene Answer := do
  return .template ((← host).plugin id).template

def Step.scene : Step → Scene Answer
  | .on name topic priority actions => do
    let id ← perform (.subscribe (← stage).bus topic priority { name, actions })
    changeStage fun s => { s with subscriptions := s.subscriptions.set name id }
    return .number ((← sessionBus).count topic)
  | .off name => do
    perform (.unsubscribe (← find (← stage).subscriptions name))
    return .nothing
  | .emit topic source detail times =>
    emitTimes topic source detail times .nothing
  | .count topic => do
    return .number ((← sessionBus).count topic)
  | .sequence => do
    return .number (← sessionBus).sequence
  | .history limit => do
    return .texts (((← sessionBus).recent limit).map Envelope.text)
  | .summary limit => do
    let texts := ((← sessionBus).recent limit).map Envelope.text
    return .summary texts.length (texts.take 1) (texts.drop (texts.length - 1))
  | .sameBus => do
    let bus ← perform .openBus
    return .flag (bus = (← stage).bus)
  | .reset => do
    perform .closeBus
    let bus ← perform .openBus
    let directory ← perform (.openDirectory (some bus))
    let old := (← stage).bus
    changeStage fun s => { s with bus, directory }
    return .flag (bus ≠ old)
  | .introduce name kind change => do
    let offer := { kind : Offer }.change change
    let id ← perform (.introduce offer.provider)
    changeStage fun s =>
      { s with offers := s.offers.set name (id, offer), labels := s.labels.set id name }
    return .nothing
  | .amend name change => do
    let (id, offer) ← offerNamed name
    let offer := offer.change change
    perform (.amend id offer.provider)
    changeStage fun s => { s with offers := s.offers.set name (id, offer) }
    return .nothing
  | .register kind name => do
    perform (.register (← stage).directory kind (← offerNamed name).1)
    return .nothing
  | .unregister kind name => do
    return .flag (← perform (.unregister (← stage).directory kind (← offerNamed name).1))
  | .active kind => do
    return .name (((← host).active (← stage).directory kind).bind (← stage).labels.get?)
  | .attach name configPath savesDefault ownServices => do
    let s ← stage
    let bus := if ownServices then none else some s.bus
    let directory := if ownServices then none else some s.directory
    let id ← perform (.attach configPath savesDefault bus directory)
    changeStage fun s => { s with plugins := s.plugins.set name id }
    templateOf id
  | .enable name settings => do
    let id ← pluginNamed name
    perform (.enable id settings)
    templateOf id
  | .disable name => do
    perform (.disable (← pluginNamed name))
    return .nothing
  | .command name args => do
    return .command (← perform (.command (← pluginNamed name) args))
  | .reload name format => do
    return .template (← perform (.reload (← pluginNamed name) format))
  | .refresh name => do
    perform (.refresh (← pluginNamed name))
    return .nothing
  | .template name => do
    templateOf (← pluginNamed name)
  | .bindings name => do
    let b := ((← host).plugin (← pluginNamed name)).bindings
    let labels := (← stage).labels
    return .names ([b.chatMeta, b.accounts, b.verifierPrefixes].map (·.bind labels.get?))
  | .chat player body => do
    return .chat (← perform (.publish (← stage).bus player body))
  | .supply path content => do
    perform (.supply path content)
    return .nothing
  | .remove path => do
    perform (.remove path)
    return .nothing
  | .files => do
    return .files (← host).files.listing
  | .setEnvironment e => do
    perform (.setEnvironment e)
    return .nothing

def editMessage (p : Payload) (f : ChatMessage → ChatMessage) : Except Failure Payload :=
  p.chat.map fun m => p.setChat (f m)

def playActions : List Action → Payload → Program Actor Stage Reaction
  | [],      p => return { payload := p, failure := none }
  | a :: as, p => do
    let next : Except Failure Payload ←
      match a with
      | .wrapFormat before after =>
        pure (editMessage p fun m => { m with format := before ++ m.format ++ after })
      | .setFormat format        => pure (editMessage p fun m => { m with format })
      | .setBody body            => pure (editMessage p fun m => { m with body })
      | .put key value           => pure (.ok (p.put key (.data value)))
      | .raise reason            => pure (.error (.raised reason))
      | .step s                  => do
        let answer ← s.scene.run
        pure (answer.map fun _ => p)
    match next with
    | .error e => return { payload := p, failure := some e }
    | .ok p    => playActions as p

def behave : Behaviour Actor Stage := fun actor e =>
  .look fun h =>
    let s := h.memory
    let notice : Notice :=
      { actor := actor.name, envelope := e.envelope, payload := showPayload s e.payload }
    .keep { s with notices := s.notices ++ [notice] } (playActions actor.actions e.payload)

def depth : Nat := 400

structure Outcome where
  answer  : Except Failure Answer
  notices : List Notice
  asked   : List Asked
  log     : List Record

-- Performs a step. What the steps before it left in the records is cleared first.
def playStep (s : Step) (h : Host Actor Stage) : Outcome × Host Actor Stage :=
  let h := { h with asked := [], log := [], memory := { h.memory with notices := [] } }
  let (answer, h) := s.scene.run.run (Host.perform behave depth) h
  ({ answer, notices := h.memory.notices, asked := h.asked, log := h.log }, h)

def playSteps : List Step → Host Actor Stage → List Outcome
  | [],      _ => []
  | s :: ss, h =>
    let (o, h) := playStep s h
    o :: playSteps ss h

def opening (files : FileTree) (environment : Environment) : Host Actor Stage :=
  let empty : Stage :=
    { bus := default, directory := default, subscriptions := .empty, offers := .empty
      labels := .empty, plugins := .empty, details := .empty, notices := [] }
  let (bus, h) := (Host.new files environment empty).openBus
  let (directory, h) := h.openDirectory (some bus)
  { h with memory := { empty with bus, directory } }

def play (files : FileTree) (environment : Environment) (steps : List Step) : List Outcome :=
  playSteps steps (opening files environment)

end Rehearsal
end Chatline
