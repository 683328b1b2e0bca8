import Chatline.Proofs.Dispatch.Course

namespace Chatline

namespace Record

def ofBus : Record → Bool
  | emitted _ _ | delivered _ _ _ | handlerFailed _ _ _ | subscribed _ _ _ | unsubscribed _ => true
  | _ => false

def isNotice : Record → Bool
  | chatMetaChanged _ | accountsChanged | verifierPrefixesChanged => true
  | _ => false

def Plain (r : Record) : Prop :=
  r.ofBus = false ∧ r.isNotice = false

theorem plain_of_warning {r : Record} (h : r.level = .warning) : r.Plain := by
  cases r <;> first | exact ⟨rfl, rfl⟩ | contradiction

end Record

namespace Settings

theorem level_of_mem_readStatement {files : FileTree} {path : Path} {s : Statement} {rs : List Record}
    (h : readStatement files path = .ok (s, rs)) : ∀ r ∈ rs, r.level = .warning := by
  simp only [readStatement] at h
  split at h
  case h_1 => cases h; simp [Record.level]
  case h_2 => cases h; simp [Record.level]
  case h_3 => cases h
  case h_4 =>
    split at h
    case h_1 => cases h; simp [Record.level]
    case h_2 => cases h
    case h_3 => split at h <;> cases h <;> simp [Record.level]

theorem level_of_mem_formatText (s : Statement) : ∀ r ∈ s.formatText.2, r.level = .warning := by
  simp only [Statement.formatText]
  split <;> simp [Record.level]

theorem level_of_mem_load (files : FileTree) (e : Environment) (path : Option String) :
    ∀ r ∈ (load files e path).2, r.level = .warning := by
  simp only [load]
  split
  case h_1 => simp
  case h_2 s warnings hr =>
    intro r hm
    cases List.mem_append.mp hm with
    | inl hm => exact level_of_mem_readStatement hr r hm
    | inr hm => exact level_of_mem_formatText s r hm

end Settings

def Bindings.slot? (b : Bindings) : Kind → Option (Option ProviderId)
  | .chatMeta         => some b.chatMeta
  | .accounts         => some b.accounts
  | .verifierPrefixes => some b.verifierPrefixes
  | .other _          => none

def Observer.plugin? {ξ : Type} : Observer ξ → Option PluginId
  | installer id | resolver id | rebinder id => some id
  | guest _                                  => none

-- The changes that there are to hosts, by what they are about. What is logged and asked is not told apart.
inductive Change (ξ : Type)
  | surround
  | found
  | introduce
  | amend (id : ProviderId) (provider : Provider)
  | join
  | enter (directory : DirectoryId)
  | load (plugin : PluginId)
  | bind (plugin : PluginId)
  | hold (plugin : PluginId)
  | subscribe (bus : BusId) (topic : String) (priority : Priority) (observer : Observer ξ)
  | unsubscribe (id : SubscriptionId)

variable {ξ σ : Type}

namespace Host

-- What comes of a host by changes that may be made. Whatever is new to it gets a number that it has not given out.
-- Plugins bind what is active, and what they log about that is all that may be a notice.
inductive Changes (may : Change ξ → Prop) (h₀ : Host ξ σ) : Host ξ σ → Prop
  | refl : Changes may h₀ h₀
  | noteAll {h rs} : Changes may h₀ h → (∀ r ∈ rs, r.Plain) → Changes may h₀ (h.noteAll rs)
  | ask {h} (qs) : Changes may h₀ h → Changes may h₀ { h with asked := h.asked ++ qs }
  | surround {h mainBus files environment memory fresh} :
    Changes may h₀ h → may .surround → h.fresh ≤ fresh →
    Changes may h₀ { h with mainBus, files, environment, memory, fresh }
  | found {h bus} :
    Changes may h₀ h → may .found →
    Changes may h₀ { h.setDirectory ⟨h.fresh⟩ { bus, entries := [] } with fresh := h.fresh + 1 }
  | introduce {h} (p) : Changes may h₀ h → may .introduce → Changes may h₀ (h.introduce p).2
  | amend {h q p} : Changes may h₀ h → may (.amend q p) → Changes may h₀ (h.amend q p)
  | join {h} (p) :
    Changes may h₀ h → may .join → Changes may h₀ { h.setPlugin ⟨h.fresh⟩ p with fresh := h.fresh + 1 }
  | enter {h d x r} :
    Changes may h₀ h → may (.enter d) → r.Plain → Changes may h₀ ((h.setDirectory d x).note r)
  | load {h id} (format) : Changes may h₀ h → may (.load id) → Changes may h₀ (h.reload id format).2
  | bind {h id bindings rs} :
    Changes may h₀ h → may (.bind id) →
    (∀ k, bindings.slot? k = (h.plugin id).bindings.slot? k ∨
      bindings.slot? k = some (h.active (h.plugin id).directory k)) →
    (∀ r ∈ rs, r.ofBus = false) →
    Changes may h₀ ((h.setPlugin id { h.plugin id with bindings }).noteAll rs)
  | hold {h id subscriptions} :
    Changes may h₀ h → may (.hold id) → Changes may h₀ (h.setPlugin id { h.plugin id with subscriptions })
  | subscribe {h b topic priority observer} :
    Changes may h₀ h → may (.subscribe b topic priority observer) →
    Changes may h₀ (h.subscribe b topic priority observer).2
  | unsubscribe {h s} :
    Changes may h₀ h → may (.unsubscribe s) → (h.bus s.bus).isLive s.serial →
    Changes may h₀ ((h.setBus s.bus ((h.bus s.bus).unsubscribe s.serial)).note (.unsubscribed s))

namespace Changes

variable {may : Change ξ → Prop} {h₀ h : Host ξ σ} {id : PluginId} {guests : Guests ξ σ}

theorem note {r : Record} (hc : Changes may h₀ h) (hr : r.Plain) : Changes may h₀ (h.note r) :=
  hc.noteAll (by simpa using hr)

section Binding

variable (hc : Changes may h₀ h) (hb : may (.bind id))

include hc hb

theorem refreshChatMeta : Changes may h₀ (h.refreshChatMeta id).2 := by
  simp only [Host.refreshChatMeta]
  split
  case isTrue => exact hc
  case isFalse =>
    split
    case h_1 => exact hc
    case h_2 name _ =>
      have told : ∀ r ∈ [Record.chatMetaChanged name], r.ofBus = false := by simp [Record.ofBus]
      refine hc.bind hb (fun k => ?_) told
      cases k
      case chatMeta => exact .inr rfl
      all_goals exact .inl rfl

theorem refreshVerifiers : Changes may h₀ (h.refreshVerifiers id) := by
  refine hc.bind hb (fun k => ?_) fun r hm => ?_
  case refine_1 =>
    cases k
    case accounts => exact .inr rfl
    case verifierPrefixes => exact .inr rfl
    all_goals exact .inl rfl
  case refine_2 =>
    cases List.mem_append.mp hm with
    | inl hm => split at hm <;> simp_all [Record.ofBus]
    | inr hm => split at hm <;> simp_all [Record.ofBus]

theorem rebind (kind : Option Kind) : Changes may h₀ (h.rebind id kind).2 := by
  simp only [Host.rebind]
  split
  case h_1 => exact hc.refreshChatMeta hb
  case h_2 => exact hc.refreshVerifiers hb
  case h_3 => exact hc.refreshVerifiers hb
  case h_4 => exact hc

theorem refresh : Changes may h₀ (h.refresh id).2 := by
  have hm := hc.refreshChatMeta hb
  simp only [Host.refresh]
  split
  case h_1 he => rwa [he] at hm
  case h_2 he =>
    rw [he] at hm
    exact hm.refreshVerifiers hb

end Binding

section Loading

variable (hc : Changes may h₀ h)

include hc

theorem settle (hl : may (.load id)) (settings : Option Settings) : Changes may h₀ (h.settle id settings).2 := by
  cases settings with
  | some s => exact hc.load s.format hl
  | none   =>
    have hs : Changes may h₀ (h.loadSettings (h.plugin id).configPath).2 :=
      hc.noteAll fun r hm => Record.plain_of_warning (Settings.level_of_mem_load _ _ _ r hm)
    simp only [Host.settle]
    split
    case h_1 => exact hs
    case h_2 => exact hs.load _ hl

theorem provideDefault (hw : may .surround) (id : PluginId) : Changes may h₀ (h.provideDefault id).2 := by
  simp only [Host.provideDefault, Host.saveDefault]
  split
  case isFalse => exact hc
  case isTrue  =>
    cases (Settings.saveDefault h.environment (h.plugin id).configPath : FileOp Bool) h.files with
    | mk written files =>
      have put : Changes may h₀ { h with files } := hc.surround hw (Nat.le_refl _)
      dsimp only
      split
      case h_1 => exact put.note ⟨rfl, rfl⟩
      case h_2 => exact put

theorem reloading (hl : may (.load id)) (settings : Option Settings) :
    Changes may h₀ (Act.reloading h id settings).2 := by
  have hs := hc.settle hl settings
  simp only [Act.reloading]
  split
  case h_1 he => rwa [he] at hs
  case h_2 he => rwa [he] at hs

theorem enabling (hw : may .surround) (hl : may (.load id)) (settings : Option Settings) :
    Changes may h₀ ((Act.enable id settings).opening h).2 := by
  have hp := hc.provideDefault hw id
  simp only [Act.opening]
  split
  case h_1 he => rwa [he] at hp
  case h_2 he =>
    rw [he] at hp
    exact hp.reloading hl settings

theorem commanding (hl : may (.load id)) (args : List String) :
    Changes may h₀ ((Act.command id args).opening h).2 := by
  simp only [Act.opening]
  split
  case isTrue => exact hc.reloading hl none
  case isFalse => exact hc

end Loading

section Opening

variable (hc : Changes may h₀ h) (hs : may .surround)

include hc hs

theorem openBus : Changes may h₀ h.openBus.2 := by
  simp only [Host.openBus]
  split
  case h_1 => exact hc
  case h_2 => exact (hc.surround hs (Nat.le_succ _)).note ⟨rfl, rfl⟩

theorem openDirectory (hf : may .found) (bus : Option BusId) : Changes may h₀ (h.openDirectory bus).2 := by
  cases bus with
  | some b => exact hc.found hf
  | none   => exact (hc.openBus hs).found hf

theorem attach (hf : may .found) (hj : may .join) (path : Option String) (saves : Bool) (bus : Option BusId)
    (d : Option DirectoryId) : Changes may h₀ (h.attach path saves bus d).2 := by
  cases bus <;> cases d
  case some.some => exact hc.join _ hj
  case some.none b => exact (hc.openDirectory hs hf (some b)).join _ hj
  case none.some => exact (hc.openBus hs).join _ hj
  case none.none => exact ((hc.openBus hs).openDirectory hs hf (some h.openBus.1)).join _ hj

end Opening

theorem listen (hc : Changes may h₀ h) (hh : may (.hold id))
    (hs : ∀ b topic priority observer, observer.plugin? = some id → may (.subscribe b topic priority observer)) :
    Changes may h₀ (h.listen id) := by
  have h₁ := hc.subscribe (hs (h.plugin id).bus chatTopic .lowest (.installer id) rfl)
  have h₂ := h₁.subscribe (hs (h.plugin id).bus chatTopic .highest (.resolver id) rfl)
  have h₃ := h₂.subscribe (hs (h.plugin id).bus Directory.registered .normal (.rebinder id) rfl)
  have h₄ := h₃.subscribe (hs (h.plugin id).bus Directory.unregistered .normal (.rebinder id) rfl)
  exact h₄.hold hh

theorem drop (hc : Changes may h₀ h) {s : SubscriptionId} (hu : may (.unsubscribe s)) :
    Changes may h₀ (h.unsubscribe s) := by
  simp only [Host.unsubscribe]
  split
  case isTrue live => exact hc.unsubscribe hu live
  case isFalse     => exact hc

theorem dropAll (hc : Changes may h₀ h) {ss : List SubscriptionId} (hu : ∀ s ∈ ss, may (.unsubscribe s)) :
    Changes may h₀ (ss.foldl Host.unsubscribe h) := by
  induction ss generalizing h with
  | nil          => exact hc
  | cons s ss ih => exact ih (hc.drop (hu s (.head _))) fun s hm => hu s (.tail _ hm)

theorem react (hc : Changes may h₀ h) {observer : Observer ξ} (e : Event) (ho : ∀ x, observer ≠ .guest x)
    (hb : ∀ id, observer.plugin? = some id → may (.bind id)) : Changes may h₀ (h.react guests observer e).2 := by
  cases observer with
  | installer id => exact hc
  | resolver id  =>
    simp only [Host.react, resolve]
    split
    case h_1 => exact hc
    case h_2 => split <;> exact hc.ask _
  | rebinder id  =>
    have hr := hc.rebind (hb id rfl) e.payload.kind?
    simp only [Host.react]
    split
    case h_1 he => rwa [he] at hr
    case h_2 he => rwa [he] at hr
  | guest x      => exact absurd rfl (ho x)

end Changes
end Host

namespace Act

inductive Makes (h : Host ξ σ) : Act ξ → Change ξ → Prop
  | surround {a} : Makes h a .surround
  | found {bus} : Makes h (.openDirectory bus) .found
  | introduce {p} : Makes h (.introduce p) .introduce
  | amend {q p} : Makes h (.amend q p) (.amend q p)
  | attach {path saves bus d} : Makes h (.attach path saves bus d) .found
  | join {path saves bus d} : Makes h (.attach path saves bus d) .join
  | register {d k q} : Makes h (.register d k q) (.enter d)
  | unregister {d k q} : Makes h (.unregister d k q) (.enter d)
  | enable {id settings} : Makes h (.enable id settings) (.load id)
  | command {id args} : Makes h (.command id args) (.load id)
  | reload {id format} : Makes h (.reload id format) (.load id)
  | refresh {id} : Makes h (.refresh id) (.bind id)
  | subscribe {b topic priority x} :
    Makes h (.subscribe b topic priority x) (.subscribe b topic priority (.guest x))
  | unsubscribe {s} : Makes h (.unsubscribe s) (.unsubscribe s)
  | leave {id s} : s ∈ (h.plugin id).subscriptions → Makes h (.disable id) (.unsubscribe s)
  | forget {id} : Makes h (.disable id) (.hold id)

inductive Finishes : Act ξ → Change ξ → Prop
  | bind {id settings} : Finishes (.enable id settings) (.bind id)
  | hold {id settings} : Finishes (.enable id settings) (.hold id)
  | subscribe {id settings b topic priority observer} :
    observer.plugin? = some id → Finishes (.enable id settings) (.subscribe b topic priority observer)

theorem opening_changes (a : Act ξ) (h : Host ξ σ) : Host.Changes (a.Makes h) h (a.opening h).2 := by
  cases a
  case openBus => exact .openBus .refl .surround
  case openDirectory bus => exact .openDirectory .refl .surround .found bus
  case introduce p => exact .introduce p .refl .introduce
  case amend q p => exact .amend .refl .amend
  case subscribe b topic priority x => exact .subscribe .refl .subscribe
  case unsubscribe s => exact .drop .refl .unsubscribe
  case emit b topic source p => exact .refl
  case register d k p => exact .enter .refl .register ⟨rfl, rfl⟩
  case unregister d k p =>
    simp only [opening]
    split
    case isTrue  => exact .enter .refl .unregister ⟨rfl, rfl⟩
    case isFalse => exact .refl
  case attach path saves b d => exact .attach .refl .surround .attach .join path saves b d
  case enable id settings => exact .enabling .refl .surround .enable settings
  case disable id => exact (Host.Changes.dropAll .refl fun _ hs => .leave hs).hold .forget
  case command id args => exact .commanding .refl .command args
  case reload id format => exact .load format .refl .reload
  case refresh id => exact .refresh .refl .refresh
  case publish b player body => exact .refl
  all_goals exact .surround .refl .surround (Nat.le_refl _)

theorem closing_changes (a : Act ξ) (h : Host ξ σ) : Host.Changes a.Finishes h (a.closing h) := by
  simp only [closing]
  split
  case h_1 id settings =>
    have hr : Host.Changes (enable id settings).Finishes h (h.refresh id).2 := .refresh .refl .bind
    split
    case h_1 he => rwa [he] at hr
    case h_2 he =>
      rw [he] at hr
      exact hr.listen .hold fun _ _ _ _ => .subscribe
  case h_2 => exact .refl

end Act

def Turn.Makes (t : Turn ξ σ) (c : Change ξ) : Prop :=
  ∃ id, t.subscription.observer.plugin? = some id ∧ c = .bind id

theorem Turn.changes {a : Act ξ} {guests : Guests ξ σ} {h : Host ξ σ} {t : Turn ξ σ} (ht : t ∈ a.turns guests h)
    (ho : ∀ x, t.subscription.observer ≠ .guest x) : Host.Changes t.Makes t.before t.after := by
  have hr := congrArg Prod.snd (Act.turns_react ht)
  dsimp only at hr
  rw [hr]
  exact .react .refl _ ho fun id hi => ⟨id, hi, rfl⟩

end Chatline
