import Chatline.Proofs.Dispatch.Unchanged

namespace Chatline

variable {ξ σ : Type}

namespace Host

def directoryOf (h : Host ξ σ) (id : PluginId) : Directory :=
  h.directory (h.plugin id).directory

def Bound (h : Host ξ σ) (id : PluginId) (k : Kind) : Prop :=
  ∀ q, (h.plugin id).bindings.slot? k = some q → q = (h.directoryOf id).active k

def Named (h : Host ξ σ) (q : ProviderId) : Prop :=
  q.number < h.fresh ∧ ∃ name, (h.provider q).name? = .ok name

-- A plugin that has been attached, with a directory that announces on the bus of the plugin and in which
-- sources of prefixes and suffixes have names.
structure Wired (h : Host ξ σ) (id : PluginId) : Prop where
  plugin    : id.number < h.fresh
  directory : (h.plugin id).directory.number < h.fresh
  bus       : (h.directoryOf id).bus = (h.plugin id).bus
  named     : ∀ q ∈ (h.directoryOf id).providers .chatMeta, h.Named q

def Hears (h : Host ξ σ) (id : PluginId) (b : BusId) (topic : String) : Prop :=
  ∃ s ∈ (h.bus b).live topic, s.observer = .rebinder id

-- What may happen to a plugin without harm: it goes on hearing what it has heard, its directory stays as
-- it is, and what is bound is either left alone or bound as it should be.
structure Tended (id : PluginId) (h h' : Host ξ σ) : Prop where
  fresh     : h.fresh ≤ h'.fresh
  bus       : (h'.plugin id).bus = (h.plugin id).bus
  directory : h'.directoryOf id = h.directoryOf id
  handle    : (h'.plugin id).directory = (h.plugin id).directory
  bindings  : ∀ k, (h'.plugin id).bindings.slot? k = (h.plugin id).bindings.slot? k ∨ h'.Bound id k
  named     : ∀ q ∈ (h.directoryOf id).providers .chatMeta, h.Named q → h'.Named q
  hears     : ∀ b topic, h.Hears id b topic → h'.Hears id b topic

variable {id : PluginId} {h h' h₁ h₂ h₃ : Host ξ σ}

theorem Wired.tended (hw : h.Wired id) (ht : Tended id h h') : h'.Wired id where
  plugin    := Nat.lt_of_lt_of_le hw.plugin ht.fresh
  directory := ht.handle ▸ Nat.lt_of_lt_of_le hw.directory ht.fresh
  bus       := by rw [ht.directory, ht.bus, hw.bus]
  named     := fun q hq => by
    rw [ht.directory] at hq
    exact ht.named q hq (hw.named q hq)

theorem Bound.tended {k : Kind} (hb : h.Bound id k) (ht : Tended id h h') : h'.Bound id k := by
  cases ht.bindings k with
  | inl he =>
    intro q hq
    rw [he] at hq
    rw [ht.directory]
    exact hb q hq
  | inr hb => exact hb

theorem Changes.slots {may : Change ξ → Prop} (hc : Changes may h h')
    (plugin : id.number < h.fresh ∨ ¬may .join) (directory : (h.plugin id).directory.number < h.fresh ∨ ¬may .found)
    (calm : ¬may (.enter (h.plugin id).directory)) (k : Kind) :
    (h'.plugin id).bindings.slot? k = (h.plugin id).bindings.slot? k ∨
      (h'.plugin id).bindings.slot? k = some ((h.directoryOf id).active k) := by
  let Slot (b : Bindings) : Prop :=
    b.slot? k = (h.plugin id).bindings.slot? k ∨ b.slot? k = some ((h.directoryOf id).active k)
  have put {h₁ : Host ξ σ} {id' : PluginId} {p : Plugin} (ih : Slot (h₁.plugin id).bindings)
      (hp : id' = id → Slot p.bindings) : Slot ((h₁.setPlugin id' p).plugin id).bindings := by
    rw [plugin_setPlugin]
    split
    case isTrue he => exact hp he.symm
    case isFalse   => exact ih
  induction hc
  case refl => exact .inl rfl
  case join hc hj ih =>
    refine put ih fun he => ?_
    subst he
    exact absurd (plugin.resolve_right (not_not_intro hj)) (Nat.not_lt.mpr hc.fresh_le)
  case load ih => exact put ih fun he => he ▸ ih
  case hold ih => exact put ih fun he => he ▸ ih
  case bind h₁ id' _ _ hc _ hs _ ih =>
    refine put ih fun he => ?_
    subst he
    have active : h₁.active (h₁.plugin id').directory k = (h.directoryOf id').active k := by
      rw [Host.active, (hc.plugin plugin).directory, hc.directory directory calm, directoryOf]
    cases hs k with
    | inl kept  => exact ih.imp kept.trans kept.trans
    | inr bound => exact .inr (bound.trans (congrArg some active))
  all_goals assumption

namespace Tended

theorem trans (h₁₂ : Tended id h₁ h₂) (h₂₃ : Tended id h₂ h₃) : Tended id h₁ h₃ where
  fresh     := Nat.le_trans h₁₂.fresh h₂₃.fresh
  bus       := h₂₃.bus.trans h₁₂.bus
  directory := h₂₃.directory.trans h₁₂.directory
  handle    := h₂₃.handle.trans h₁₂.handle
  bindings  := by
    intro k
    cases h₁₂.bindings k with
    | inl he => exact he ▸ h₂₃.bindings k
    | inr hb => exact .inr (hb.tended h₂₃)
  named     := fun q hq hn => h₂₃.named q (h₁₂.directory ▸ hq) (h₁₂.named q hq hn)
  hears     := fun b topic hh => h₂₃.hears b topic (h₁₂.hears b topic hh)

theorem same (hp : h'.plugins = h.plugins) (hd : h'.directories = h.directories)
    (hq : h'.providers = h.providers) (hb : h'.buses = h.buses) (hf : h.fresh ≤ h'.fresh) :
    Tended id h h' where
  fresh     := hf
  bus       := by rw [plugin, plugin, hp]
  directory := by rw [directoryOf, directoryOf, Host.directory, Host.directory, plugin, plugin, hp, hd]
  handle    := by rw [plugin, plugin, hp]
  bindings  := fun k => .inl (by rw [plugin, plugin, hp])
  named     := fun q _ hn => ⟨Nat.lt_of_lt_of_le hn.left hf, by rw [provider, hq]; exact hn.right⟩
  hears     := fun b topic hh => by rwa [Hears, bus_congr hb]

theorem refl : Tended id h h :=
  same rfl rfl rfl rfl (Nat.le_refl _)

def Spares (h : Host ξ σ) (id : PluginId) (s : SubscriptionId) : Prop :=
  ∀ t ∈ (h.bus s.bus).subscriptions, t.serial = s.serial → t.observer ≠ .rebinder id

theorem changes {may : Change ξ → Prop} (hc : Changes may h h') (plugin : id.number < h.fresh ∨ ¬may .join)
    (directory : (h.plugin id).directory.number < h.fresh ∨ ¬may .found) (calm : ¬may (.enter (h.plugin id).directory))
    (amended : ∀ q p, may (.amend q p) → q ∈ (h.directoryOf id).providers .chatMeta → ∃ name, p.name? = .ok name)
    (spared : ∀ s, may (.unsubscribe s) → Spares h id s) : Tended id h h' where
  fresh     := hc.fresh_le
  bus       := (hc.plugin plugin).bus
  directory := by rw [directoryOf, directoryOf, (hc.plugin plugin).directory, hc.directory directory calm]
  handle    := (hc.plugin plugin).directory
  bindings  := by
    intro k
    refine (hc.slots plugin directory calm k).imp_right fun he q hq => ?_
    rw [directoryOf, (hc.plugin plugin).directory, hc.directory directory calm]
    exact Option.some.inj (hq.symm.trans he)
  named     := by
    intro q hm hn
    refine ⟨Nat.lt_of_lt_of_le hn.left hc.fresh_le, ?_⟩
    cases hc.provider hn.left with
    | inl same => exact same ▸ hn.right
    | inr new  =>
      have ⟨p, hp, same⟩ := new
      exact same ▸ amended q p hp hm
  hears     := by
    intro b topic ⟨s, hs, ho⟩
    have ⟨hs, ht⟩ := Bus.mem_live.mp hs
    exact ⟨s, Bus.mem_live.mpr ⟨hc.retained hs fun hu => spared _ hu s hs rfl ho, ht⟩, ho⟩

theorem note (r : Record) : Tended id h (h.note r) :=
  same rfl rfl rfl rfl (Nat.le_refl _)

theorem number (em : Emission) : Tended id h (em.numbered h) where
  fresh     := Nat.le_refl _
  bus       := rfl
  directory := rfl
  handle    := rfl
  bindings  := fun _ => .inl rfl
  named     := fun _ _ hn => hn
  hears     := by
    intro b topic hh
    rw [Hears, em.bus_numbered]
    split
    case isTrue he => exact he ▸ hh
    case isFalse   => exact hh

theorem finishing {a : Act ξ} (hc : Changes a.Finishes h h') : Tended id h h' :=
  changes hc (.inr nofun) (.inr nofun) nofun nofun nofun

theorem turn {a : Act ξ} {guests : Guests ξ σ} {t : Turn ξ σ} (ht : t ∈ a.turns guests h)
    (ho : ∀ x, t.subscription.observer ≠ .guest x) : Tended id t.before t.after :=
  changes (t.changes ht ho) (.inr nofun) (.inr nofun) nofun nofun nofun

end Tended
end Host
end Chatline
