import Chatline.Proofs.Passing.Kindred

namespace Chatline

variable {ξ σ ω : Type}

def Bus.sent (b : Bus ω) : Nat × List Envelope :=
  (b.sequence, b.history)

theorem Bus.sent_number {b b' : Bus ω} (h : b.sent = b'.sent) (topic source : String) :
    (b.number topic source).1 = (b'.number topic source).1 ∧
      (b.number topic source).2.sent = (b'.number topic source).2.sent := by
  have ⟨hs, hh⟩ := Prod.mk.inj h
  simp [number, sent, hs, hh]

namespace Host

def rest (h : Host ξ σ) : Host ξ σ :=
  { h with buses := .empty, plugins := .empty, log := [] }

-- Hosts that differ in their logs and in serial numbers, and in who is subscribed to topics other than
-- those in `T`.
structure Alike (T : BusId → String → Prop) (h h' : Host ξ σ) : Prop where
  rest    : h.rest = h'.rest
  plugins : ∀ id, (h.plugin id).rest = (h'.plugin id).rest
  sent    : ∀ b, (h.bus b).sent = (h'.bus b).sent
  roles   : ∀ b topic, T b topic → (h.bus b).roles topic = (h'.bus b).roles topic

namespace Alike

variable {T : BusId → String → Prop} {h h' h₁ h₂ h₃ : Host ξ σ}

theorem refl : Alike T h h where
  rest     := rfl
  plugins  := fun _ => rfl
  sent     := fun _ => rfl
  roles    := fun _ _ _ => rfl

theorem symm (ha : Alike T h h') : Alike T h' h where
  rest     := ha.rest.symm
  plugins  := fun id => (ha.plugins id).symm
  sent     := fun b => (ha.sent b).symm
  roles    := fun b topic ht => (ha.roles b topic ht).symm

theorem trans (h₁₂ : Alike T h₁ h₂) (h₂₃ : Alike T h₂ h₃) : Alike T h₁ h₃ where
  rest     := h₁₂.rest.trans h₂₃.rest
  plugins  := fun id => (h₁₂.plugins id).trans (h₂₃.plugins id)
  sent     := fun b => (h₁₂.sent b).trans (h₂₃.sent b)
  roles    := fun b topic ht => (h₁₂.roles b topic ht).trans (h₂₃.roles b topic ht)

theorem mono {S : BusId → String → Prop} (ha : Alike T h h') (hs : ∀ b topic, S b topic → T b topic) :
    Alike S h h' where
  rest     := ha.rest
  plugins  := ha.plugins
  sent     := ha.sent
  roles    := fun b topic ht => ha.roles b topic (hs b topic ht)

theorem setPlugin (ha : Alike T h h') (id : PluginId) {p p' : Plugin} (hp : p.rest = p'.rest) :
    Alike T (h.setPlugin id p) (h'.setPlugin id p') where
  rest     := ha.rest
  plugins  := by
    intro id'
    rw [plugin_setPlugin, plugin_setPlugin]
    split
    case isTrue => exact hp
    case isFalse => exact ha.plugins id'
  sent     := ha.sent
  roles    := ha.roles

theorem number (ha : Alike T h h') (em : Emission) :
    em.envelope h = em.envelope h' ∧ Alike T (em.numbered h) (em.numbered h') := by
  constructor
  case left => exact (Bus.sent_number (ha.sent em.bus) em.topic em.source).left
  case right =>
    constructor
    case rest => exact ha.rest
    case plugins => exact ha.plugins
    case sent =>
      intro b
      rw [em.bus_numbered, em.bus_numbered]
      split
      case isTrue => exact (Bus.sent_number (ha.sent em.bus) em.topic em.source).right
      case isFalse => exact ha.sent b
    case roles =>
      intro b topic ht
      rw [em.bus_numbered, em.bus_numbered]
      split
      case isTrue he =>
        subst he
        exact ha.roles em.bus topic ht
      case isFalse => exact ha.roles b topic ht

theorem kindred : Kindred T (Alike (ξ := ξ) (σ := σ) T) where
  world ha       := congrArg (·.world) ha.rest
  plugin ha      := ha.plugins
  roles ha       := ha.roles _ _
  number ha em   := ha.number em
  noteAll ha _ _ := ⟨ha.rest, ha.plugins, ha.sent, ha.roles⟩
  ask ha qs      := ⟨congrArg (fun h => { h with asked := h.asked ++ qs }) ha.rest, ha.plugins, ha.sent, ha.roles⟩
  within ha k    := ⟨congrArg (fun h => (h.within k).rest) ha.rest, ha.plugins, ha.sent, ha.roles⟩
  alter ha id f commutes := ha.setPlugin id <| by
    have rest (p : Plugin) : (f p).rest = f p.rest := (commutes p []).symm
    rw [rest, rest, ha.plugins]

end Alike
end Host
end Chatline
