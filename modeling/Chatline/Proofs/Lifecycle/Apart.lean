import Chatline.Proofs.Dispatch.Unchanged

namespace Chatline

variable {ξ σ : Type}

namespace Host

def Observes (h : Host ξ σ) (id : PluginId) : Prop :=
  ∃ b, ∃ s ∈ (h.bus b).subscriptions, s.observer.plugin? = some id

-- What happens apart from a plugin, once it has been attached: nothing of it is newly subscribed, it knows of
-- the same subscriptions, and its bindings stay as they are, unless it `binds` anew.
structure Apart (binds : Prop) (id : PluginId) (h h' : Host ξ σ) : Prop where
  fresh         : h.fresh ≤ h'.fresh
  subscribed    : ∀ b, (h.bus b).subscribed ≤ (h'.bus b).subscribed
  subscriptions : ∀ b, ∀ s ∈ (h'.bus b).subscriptions,
    s ∈ (h.bus b).subscriptions ∨ s.serial < (h'.bus b).subscribed ∧ s.observer.plugin? ≠ some id
  held          : id.number < h.fresh → (h'.plugin id).subscriptions = (h.plugin id).subscriptions
  bindings      : id.number < h.fresh → binds ∨ (h'.plugin id).bindings = (h.plugin id).bindings

namespace Apart

variable {binds : Prop} {id : PluginId} {h h' : Host ξ σ} {guests : Guests ξ σ}

theorem observes (ha : Apart binds id h h') (ho : h'.Observes id) : h.Observes id := by
  have ⟨b, s, hs, hp⟩ := ho
  cases ha.subscriptions b s hs with
  | inl hs  => exact ⟨b, s, hs, hp⟩
  | inr new => exact absurd hp new.right

theorem same (hb : h'.buses = h.buses) (hp : h'.plugins = h.plugins) (hf : h.fresh ≤ h'.fresh) :
    Apart binds id h h' where
  fresh         := hf
  subscribed    := fun b => Nat.le_of_eq (by rw [bus_congr hb])
  subscriptions := fun b s hs => .inl (by rwa [bus_congr hb] at hs)
  held          := fun _ => by rw [plugin, plugin, hp]
  bindings      := fun _ => .inr (by rw [plugin, plugin, hp])

theorem note (r : Record) : Apart binds id h (h.note r) :=
  same rfl rfl (Nat.le_refl _)

theorem changes {may : Change ξ → Prop} (hc : Changes may h h') (hb : may (.bind id) → binds) (hh : ¬may (.hold id))
    (hs : ∀ b topic priority observer, may (.subscribe b topic priority observer) → observer.plugin? ≠ some id) :
    Apart binds id h h' where
  fresh         := hc.fresh_le
  subscribed    := hc.subscribed_le
  subscriptions := fun _ _ hm => (hc.subscriptions hm).imp_right (And.imp_right (hs _ _ _ _))
  held          := fun hi => (hc.plugin (.inl hi)).subscriptions.resolve_left hh
  bindings      := fun hi => (hc.plugin (.inl hi)).bindings.imp_left hb

theorem number (em : Emission) : Apart binds id h (em.numbered h) where
  fresh         := Nat.le_refl _
  subscribed b  := by
    rw [em.bus_numbered]
    split
    case isTrue he => exact he ▸ Nat.le_refl _
    case isFalse   => exact Nat.le_refl _
  subscriptions := by
    intro b s hs
    rw [em.bus_numbered] at hs
    split at hs
    case isTrue he => exact .inl (he ▸ hs)
    case isFalse   => exact .inl hs
  held          := fun _ => rfl
  bindings      := fun _ => .inr rfl

theorem dropAll (ss : List SubscriptionId) : Apart binds id h (ss.foldl Host.unsubscribe h) :=
  have dropped : Changes (fun c => ∃ s, c = .unsubscribe s) h _ := .dropAll .refl fun s _ => ⟨s, rfl⟩
  changes dropped nofun nofun nofun

theorem turn {a : Act ξ} {t : Turn ξ σ} (ht : t ∈ a.turns guests h)
    (ho : ∀ x, t.subscription.observer ≠ .guest x) (hb : t.subscription.observer.plugin? = some id → binds) :
    Apart binds id t.before t.after := by
  refine changes (t.changes ht ho) ?bind nofun nofun
  case bind =>
    rintro ⟨_, hi, ⟨⟩⟩
    exact hb hi

theorem opening {a : Act ξ} (hd : a ≠ .disable id) (hb : a = .refresh id → binds) :
    Apart binds id h (a.opening h).2 := by
  refine changes (a.opening_changes h) ?bind ?hold ?subscribe
  case bind => rintro ⟨⟩; exact hb rfl
  case hold => rintro ⟨⟩; exact hd rfl
  case subscribe => rintro _ _ _ _ ⟨⟩; nofun

theorem closing {a : Act ξ} (ha : ∀ settings, a ≠ .enable id settings) : Apart binds id h (a.closing h) := by
  refine changes (a.closing_changes h) ?bind ?hold ?subscribe
  case bind => rintro ⟨⟩; exact absurd rfl (ha _)
  case hold => rintro ⟨⟩; exact absurd rfl (ha _)
  case subscribe =>
    intro _ _ _ _ hm he
    cases hm with
    | subscribe hi =>
      cases hi.symm.trans he
      exact absurd rfl (ha _)

end Apart
end Host
end Chatline
