import Chatline.Proofs.Dispatch.Course

namespace Chatline

variable {ξ σ α β ω : Type}

def Subscription.role (s : Subscription ω) : Priority × ω :=
  (s.priority, s.observer)

def Bus.roles (b : Bus ω) (topic : String) : List (Priority × ω) :=
  (b.live topic).map (·.role)

def Plugin.rest (p : Plugin) : Plugin :=
  { p with subscriptions := [] }

namespace Host

def world (h : Host ξ σ) : Host ξ σ :=
  { h with buses := .empty, plugins := .empty, log := [], asked := [] }

def within (h k : Host ξ σ) : Host ξ σ :=
  { k with buses := h.buses, plugins := h.plugins, log := h.log, asked := h.asked }

-- Doing the same thing with related hosts has the same result and leaves them related.
def Agree (R : Host ξ σ → Host ξ σ → Prop) (x x' : α × Host ξ σ) : Prop :=
  x.1 = x'.1 ∧ R x.2 x'.2

def Respects (R : Host ξ σ → Host ξ σ → Prop) (guests : Guests ξ σ) : Prop :=
  ∀ x e h h', R h h' → Agree R (guests x e h) (guests x e h')

-- A relation between hosts that have much in common. They may differ in what has been logged, in subscriptions that
-- are of no importance to the topics in `T`, and in those that plugins know of. Whatever is done to both of them keeps
-- them related, if it does not depend on these differences.
structure Kindred (T : BusId → String → Prop) (R : Host ξ σ → Host ξ σ → Prop) : Prop where
  world {h h'} : R h h' → h.world = h'.world
  plugin {h h'} : R h h' → ∀ id, (h.plugin id).rest = (h'.plugin id).rest
  roles {h h' b topic} : R h h' → T b topic → (h.bus b).roles topic = (h'.bus b).roles topic
  number {h h'} : R h h' → ∀ em : Emission, em.envelope h = em.envelope h' ∧ R (em.numbered h) (em.numbered h')
  noteAll {h h'} : R h h' → ∀ rs rs', R (h.noteAll rs) (h'.noteAll rs')
  ask {h h'} : R h h' → ∀ qs, R { h with asked := h.asked ++ qs } { h' with asked := h'.asked ++ qs }
  within {h h'} : R h h' → ∀ k, R (h.within k) (h'.within k)
  alter {h h'} : R h h' → ∀ id (f : Plugin → Plugin),
    (∀ p subscriptions, f { p with subscriptions } = { f p with subscriptions }) →
    R (h.setPlugin id (f (h.plugin id))) (h'.setPlugin id (f (h'.plugin id)))

def attempt (f : Host ξ σ → Except Failure α × Host ξ σ) (g : α → Host ξ σ → Except Failure β × Host ξ σ)
    (h : Host ξ σ) : Except Failure β × Host ξ σ :=
  match f h with
  | (.error e, h) => (.error e, h)
  | (.ok a, h)    => g a h

theorem settle_attempt (h : Host ξ σ) (id : PluginId) : h.settle id none =
    attempt (fun h => h.loadSettings (h.plugin id).configPath)
      (fun s h => (.ok (h.reload id s.format).1, (h.reload id s.format).2)) h := by
  simp only [settle, attempt]
  cases h.loadSettings (h.plugin id).configPath with
  | mk loaded h₁ => cases loaded <;> rfl

theorem reloadSettings_attempt (h : Host ξ σ) (guests : Guests ξ σ) (id : PluginId) (settings : Option Settings) :
    h.reloadSettings guests id settings =
      attempt (·.settle id settings)
        (fun t h => (.ok t, (h.emit guests (h.plugin id).bus reloadedTopic reloadedSource (.ofTemplate t)).2)) h := by
  simp only [reloadSettings, attempt]
  cases h.settle id settings with
  | mk settled h₁ => cases settled <;> rfl

theorem refresh_attempt (h : Host ξ σ) (id : PluginId) :
    h.refresh id = attempt (·.refreshChatMeta id) (fun _ h => (.ok (), h.refreshVerifiers id)) h := by
  simp only [refresh, attempt]
  cases h.refreshChatMeta id with
  | mk bound h₁ => cases bound <;> rfl

theorem enable_attempt (h : Host ξ σ) (guests : Guests ξ σ) (id : PluginId) (settings : Option Settings) :
    h.enable guests id settings =
      attempt (·.provideDefault id) (fun _ => attempt (·.reloadSettings guests id settings) fun _ =>
        attempt (·.refresh id) fun _ h => (.ok (), h.listen id)) h := by
  simp only [enable, refresh, attempt]
  cases h.provideDefault id with
  | mk provided h₁ =>
    cases provided with
    | error f => rfl
    | ok _    =>
      dsimp only
      cases h₁.reloadSettings guests id settings with
      | mk reloaded h₂ =>
        cases reloaded with
        | error f => rfl
        | ok _    =>
          dsimp only
          cases h₂.refreshChatMeta id with
          | mk bound h₃ => cases bound <;> rfl

theorem command_attempt (h : Host ξ σ) (guests : Guests ξ σ) (id : PluginId) {args : List String}
    (reload : args.head?.any (·.map Char.toLower == "reload")) :
    h.command guests id args = attempt (·.reloadSettings guests id none)
      (fun _ h => (.ok { handled := true, messages := ["Reloaded successfully."] }, h)) h := by
  simp only [command, reload, if_true, attempt]
  cases h.reloadSettings guests id none with
  | mk reloaded h₁ => cases reloaded <;> rfl

variable {T : BusId → String → Prop} {R : Host ξ σ → Host ξ σ → Prop} {h h' : Host ξ σ} {guests : Guests ξ σ}

namespace Agree

theorem attempt {f : Host ξ σ → Except Failure α × Host ξ σ} {g : α → Host ξ σ → Except Failure β × Host ξ σ}
    (hf : Agree R (f h) (f h')) (hg : ∀ a k k', R k k' → Agree R (g a k) (g a k')) :
    Agree R (attempt f g h) (Host.attempt f g h') := by
  simp only [Host.attempt]
  cases hx : f h with
  | mk r k =>
    cases hx' : f h' with
    | mk r' k' =>
      rw [hx, hx'] at hf
      cases hf.left
      cases r with
      | error e => exact ⟨rfl, hf.right⟩
      | ok a    => exact hg a k k' hf.right

theorem reply {x x' : α × Host ξ σ} (ha : Agree R x x') :
    Agree R ((.ok x.1 : Except Failure α), x.2) ((.ok x'.1 : Except Failure α), x'.2) :=
  ⟨congrArg Except.ok ha.left, ha.right⟩

end Agree

namespace Kindred

variable (hk : Kindred T R) (hR : R h h')

include hk hR

section Views

theorem directory (d : DirectoryId) : h.directory d = h'.directory d :=
  congrArg (·.directory d) (hk.world hR)

theorem provider : h.provider = h'.provider :=
  congrArg (·.provider) (hk.world hR)

theorem bindings (id : PluginId) : (h.plugin id).bindings = (h'.plugin id).bindings :=
  congrArg (·.bindings) (hk.plugin hR id)

theorem bus (id : PluginId) : (h.plugin id).bus = (h'.plugin id).bus :=
  congrArg (·.bus) (hk.plugin hR id)

theorem configPath (id : PluginId) : (h.plugin id).configPath = (h'.plugin id).configPath :=
  congrArg (·.configPath) (hk.plugin hR id)

theorem active (id : PluginId) (k : Kind) :
    h.active (h.plugin id).directory k = h'.active (h'.plugin id).directory k := by
  have hd : (h.plugin id).directory = (h'.plugin id).directory := congrArg (·.directory) (hk.plugin hR id)
  rw [Host.active, Host.active, hk.directory hR, hd]

end Views

section Surroundings

theorem surround (f : Host ξ σ → Host ξ σ) (hf : ∀ h, f h = h.within (f h.world)) : R (f h) (f h') := by
  rw [hf h, hf h', hk.world hR]
  exact hk.within hR _

theorem note (r r' : Record) : R (h.note r) (h'.note r') :=
  hk.noteAll hR [r] [r']

theorem memory (m : σ) : R { h with memory := m } { h' with memory := m } :=
  hk.surround hR (fun h => { h with memory := m }) fun _ => rfl

theorem setFiles (files : FileTree) : R { h with files } { h' with files } :=
  hk.surround hR (fun h => { h with files }) fun _ => rfl

theorem setDirectory (d : DirectoryId) (x : Directory) : R (h.setDirectory d x) (h'.setDirectory d x) :=
  hk.surround hR (·.setDirectory d x) fun _ => rfl

theorem introduce (p : Provider) : Agree R (h.introduce p) (h'.introduce p) :=
  have fresh : h.fresh = h'.fresh := congrArg (·.fresh) (hk.world hR)
  ⟨congrArg ProviderId.mk fresh, hk.surround hR (fun h => (h.introduce p).2) fun _ => rfl⟩

theorem supply (path : Path) (content : Option (List UInt8)) :
    Agree R ((FileTree.supply path content h.files).1, { h with files := (FileTree.supply path content h.files).2 })
      ((FileTree.supply path content h'.files).1, { h' with files := (FileTree.supply path content h'.files).2 }) := by
  have files : h.files = h'.files := congrArg (·.files) (hk.world hR)
  rw [files]
  exact ⟨rfl, hk.setFiles hR _⟩

end Surroundings

section Plugins

theorem reload (id : PluginId) (format : Option String) : Agree R (h.reload id format) (h'.reload id format) :=
  ⟨rfl, hk.note (hk.alter hR id (fun p => { p with template := .compile format }) fun _ _ => rfl) _ _⟩

theorem setBindings (id : PluginId) (bindings : Bindings) :
    R (h.setPlugin id { h.plugin id with bindings }) (h'.setPlugin id { h'.plugin id with bindings }) :=
  hk.alter hR id (fun p => { p with bindings }) fun _ _ => rfl

theorem refreshChatMeta (id : PluginId) : Agree R (h.refreshChatMeta id) (h'.refreshChatMeta id) := by
  simp only [Host.refreshChatMeta]
  rw [hk.active hR id, hk.bindings hR id, hk.provider hR]
  split
  case isTrue  => exact ⟨rfl, hR⟩
  case isFalse =>
    split
    case h_1 => exact ⟨rfl, hR⟩
    case h_2 => exact ⟨rfl, hk.note (hk.setBindings hR id _) _ _⟩

theorem refreshVerifiers (id : PluginId) : R (h.refreshVerifiers id) (h'.refreshVerifiers id) := by
  simp only [Host.refreshVerifiers]
  rw [hk.active hR id, hk.active hR id, hk.bindings hR id]
  exact hk.noteAll (hk.setBindings hR id _) _ _

theorem rebind (id : PluginId) (kind : Option Kind) : Agree R (h.rebind id kind) (h'.rebind id kind) := by
  simp only [Host.rebind]
  split
  case h_1 => exact hk.refreshChatMeta hR id
  case h_2 => exact ⟨rfl, hk.refreshVerifiers hR id⟩
  case h_3 => exact ⟨rfl, hk.refreshVerifiers hR id⟩
  case h_4 => exact ⟨rfl, hR⟩

theorem refresh (id : PluginId) : Agree R (h.refresh id) (h'.refresh id) := by
  rw [refresh_attempt, refresh_attempt]
  exact (hk.refreshChatMeta hR id).attempt fun _ _ _ hR => ⟨rfl, hk.refreshVerifiers hR id⟩

theorem loadSettings (id : PluginId) :
    Agree R (h.loadSettings (h.plugin id).configPath) (h'.loadSettings (h'.plugin id).configPath) := by
  have files : h.files = h'.files := congrArg (·.files) (hk.world hR)
  have environment : h.environment = h'.environment := congrArg (·.environment) (hk.world hR)
  simp only [Host.loadSettings]
  rw [hk.configPath hR id, files, environment]
  exact ⟨rfl, hk.noteAll hR _ _⟩

theorem settle (id : PluginId) (settings : Option Settings) : Agree R (h.settle id settings) (h'.settle id settings) := by
  cases settings with
  | some s => exact (hk.reload hR id s.format).reply
  | none   =>
    rw [settle_attempt, settle_attempt]
    exact (hk.loadSettings hR id).attempt fun s _ _ hR => (hk.reload hR id s.format).reply

theorem provideDefault (id : PluginId) : Agree R (h.provideDefault id) (h'.provideDefault id) := by
  have saves : (h.plugin id).savesDefault = (h'.plugin id).savesDefault :=
    congrArg (·.savesDefault) (hk.plugin hR id)
  have files : h.files = h'.files := congrArg (·.files) (hk.world hR)
  have environment : h.environment = h'.environment := congrArg (·.environment) (hk.world hR)
  have written : (Settings.saveDefault h.environment (h'.plugin id).configPath : FileOp Bool) h.files =
    (Settings.saveDefault h'.environment (h'.plugin id).configPath : FileOp Bool) h'.files := by rw [files, environment]
  simp only [Host.provideDefault, saveDefault]
  rw [saves, hk.configPath hR id, written]
  split
  case isFalse => exact ⟨rfl, hR⟩
  case isTrue  =>
    cases (Settings.saveDefault h'.environment (h'.plugin id).configPath : FileOp Bool) h'.files with
    | mk written files =>
      dsimp only
      split
      case h_1 => exact ⟨rfl, hk.note (hk.setFiles hR files) _ _⟩
      case h_2 => exact ⟨rfl, hk.setFiles hR files⟩

end Plugins

section Dispatch

theorem resolve (id : PluginId) (p : Payload) : Agree R (h.resolve id p) (h'.resolve id p) := by
  simp only [Host.resolve]
  rw [hk.bindings hR, hk.provider hR]
  split
  case h_1 => exact ⟨rfl, hR⟩
  case h_2 =>
    split
    case h_1 => exact ⟨rfl, hk.ask hR _⟩
    case h_2 => exact ⟨rfl, hk.ask hR _⟩

variable (hg : Respects R guests)

include hg

theorem react (observer : Observer ξ) (e : Event) : Agree R (h.react guests observer e) (h'.react guests observer e) := by
  cases observer with
  | installer id =>
    have template : (h.plugin id).template = (h'.plugin id).template := congrArg (·.template) (hk.plugin hR id)
    refine ⟨?_, hR⟩
    simp only [Host.react, install, template]
  | resolver id  => exact hk.resolve hR id e.payload
  | rebinder id  =>
    have hr := hk.rebind hR id e.payload.kind?
    simp only [Host.react]
    cases hx : h.rebind id e.payload.kind? with
    | mk outcome k =>
      cases hx' : h'.rebind id e.payload.kind? with
      | mk outcome' k' =>
        rw [hx, hx'] at hr
        cases hr.left
        cases outcome <;> exact ⟨rfl, hr.right⟩
  | guest x      => exact hg x e h h' hR

theorem deliver (b : BusId) (e : Envelope) {ss ss' : List (Subscription (Observer ξ))}
    (hs : ss.map (·.role) = ss'.map (·.role)) (p : Payload) :
    Agree R (deliver guests b e ss p h) (Host.deliver guests b e ss' p h') := by
  induction ss generalizing ss' p h h' with
  | nil =>
    cases List.map_eq_nil_iff.mp hs.symm
    exact ⟨rfl, hR⟩
  | cons s ss ih =>
    cases ss' with
    | nil         => cases hs
    | cons s' ss' =>
      have ⟨role, hs⟩ := List.cons.inj hs
      have observer : s.observer = s'.observer := congrArg Prod.snd role
      have noted := hk.note hR (.delivered b e s.serial) (.delivered b e s'.serial)
      have ⟨same, hR⟩ := hk.react noted hg s.observer { envelope := e, payload := p }
      rw [deliver_cons, deliver_cons]
      simp only [turn]
      rw [← observer, ← same]
      refine ih ?_ hs _
      cases (((h.note (.delivered b e s.serial)).react guests s.observer { envelope := e, payload := p }).1).failure with
      | none   => exact hR
      | some f => exact hk.note hR _ _

theorem emission (em : Emission) (ht : T em.bus em.topic) : Agree R (em.carryOut guests h) (em.carryOut guests h') := by
  have ⟨envelope, numbered⟩ := hk.number hR em
  have delivered := hk.deliver numbered hg em.bus (em.envelope h) (hk.roles hR ht) em.payload
  have hc (h : Host ξ σ) : em.carryOut guests h =
      ((em.envelope h, (Host.deliver guests em.bus (em.envelope h) (em.audience h) em.payload (em.numbered h)).1),
       (Host.deliver guests em.bus (em.envelope h) (em.audience h) em.payload (em.numbered h)).2) := rfl
  rw [hc, hc, ← envelope]
  exact ⟨congrArg (Prod.mk _) delivered.left, delivered.right⟩

theorem emit {b : BusId} {topic : String} (ht : T b topic) (source : String) (p : Payload) :
    Agree R (h.emit guests b topic source p) (h'.emit guests b topic source p) :=
  hk.emission hR hg { bus := b, topic, source, payload := p } ht

theorem publish {b : BusId} (ht : T b chatTopic) (player : Player) (body : String) :
    Agree R (h.publish guests b player body) (h'.publish guests b player body) := by
  have ⟨same, hR⟩ := hk.emit hR hg ht chatSource (.ofChat (.new player body))
  exact ⟨congrArg (·.2.message.getD (.new player body)) same, hR⟩

theorem announce {topic : String} (ht : ∀ b, T b topic) (d : DirectoryId) (p : Payload) :
    R (h.emit guests (h.directory d).bus topic Directory.source p).2
      (h'.emit guests (h'.directory d).bus topic Directory.source p).2 := by
  rw [← hk.directory hR]
  exact (hk.emit hR hg (ht _) Directory.source p).right

theorem register (ht : ∀ b, T b Directory.registered) (d : DirectoryId) (k : Kind) (p : ProviderId) :
    R (h.register guests d k p) (h'.register guests d k p) := by
  have entered := hk.note (hk.setDirectory hR d ((h.directory d).register k p)) (.registered d k p) (.registered d k p)
  simp only [Host.register]
  rw [← hk.directory hR]
  exact hk.announce entered hg ht d _

theorem unregister (ht : ∀ b, T b Directory.unregistered) (d : DirectoryId) (k : Kind) (p : ProviderId) :
    Agree R (h.unregister guests d k p) (h'.unregister guests d k p) := by
  have removed :=
    hk.note (hk.setDirectory hR d ((h.directory d).unregister k p)) (.unregistered d k p) (.unregistered d k p)
  simp only [Host.unregister]
  rw [← hk.directory hR]
  split
  case isTrue  => exact ⟨rfl, hk.announce removed hg ht d _⟩
  case isFalse => exact ⟨rfl, hR⟩

theorem reloadSettings (ht : ∀ b, T b reloadedTopic) (id : PluginId) (settings : Option Settings) :
    Agree R (h.reloadSettings guests id settings) (h'.reloadSettings guests id settings) := by
  rw [reloadSettings_attempt, reloadSettings_attempt]
  refine (hk.settle hR id settings).attempt fun t k k' hR => ⟨rfl, ?_⟩
  dsimp only
  rw [← hk.bus hR id]
  exact (hk.emit hR hg (ht _) reloadedSource (.ofTemplate t)).right

theorem command (ht : ∀ b, T b reloadedTopic) (id : PluginId) (args : List String) :
    Agree R (h.command guests id args) (h'.command guests id args) := by
  by_cases reload : args.head?.any (·.map Char.toLower == "reload")
  case pos =>
    rw [command_attempt h guests id reload, command_attempt h' guests id reload]
    exact (hk.reloadSettings hR hg ht id none).attempt fun _ _ _ hR => ⟨rfl, hR⟩
  case neg =>
    simp only [Host.command, reload]
    exact ⟨rfl, hR⟩

end Dispatch
end Kindred
end Host
end Chatline
