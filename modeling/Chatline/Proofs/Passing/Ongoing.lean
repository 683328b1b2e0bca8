import Chatline.Proofs.Dispatch.Unchanged
import Chatline.Proofs.Passing.Discreet

namespace Chatline

variable {ξ σ α : Type}

namespace Act

def Chatting (L : PluginId → Prop) : Act ξ → Prop
  | .publish _ _ _ => True
  | a              => a.Mild L

theorem Mild.chatting {L : PluginId → Prop} {a : Act ξ} (mild : a.Mild L) : a.Chatting L := by
  cases a <;> first | exact mild | trivial

def Gentle (L : PluginId → Prop) : Change ξ → Prop
  | .join | .subscribe _ _ _ _ | .unsubscribe _ => False
  | .load id                                    => L id
  | _                                           => True

theorem Chatting.gentle {L : PluginId → Prop} {a : Act ξ} {c : Change ξ} {h : Host ξ σ} (chatting : a.Chatting L)
    (hm : a.Makes h c) : Gentle L c := by
  cases hm <;> trivial

theorem Chatting.closing {L : PluginId → Prop} {a : Act ξ} (chatting : a.Chatting L) (h : Host ξ σ) :
    a.closing h = h := by
  cases a <;> first | rfl | exact chatting.elim

end Act

namespace Host

theorem plugin_reload (h : Host ξ σ) (id : PluginId) (format : Option String) :
    (h.reload id format).2.plugin id = { h.plugin id with template := .compile format } :=
  (plugin_setPlugin h id id _).trans (if_pos rfl)

-- As long as nobody subscribes or unsubscribes, and only plugins in `L` are given another format.
structure Ongoing (L : PluginId → Prop) (id : PluginId) (h h' : Host ξ σ) : Prop where
  subscriptions : ∀ b, (h'.bus b).subscriptions = (h.bus b).subscriptions
  subscribed    : ∀ b, (h'.bus b).subscribed = (h.bus b).subscribed
  bus           : (h'.plugin id).bus = (h.plugin id).bus
  template      : ¬ L id → (h'.plugin id).template = (h.plugin id).template

namespace Ongoing

variable {L : PluginId → Prop} {id : PluginId} {h h' h₁ h₂ h₃ : Host ξ σ} {guests : Guests ξ σ}

theorem roles (ho : Ongoing L id h h') (b : BusId) (topic : String) :
    (h'.bus b).roles topic = (h.bus b).roles topic := by
  simp only [Bus.roles, Bus.live, ho.subscriptions]

theorem trans (h₁₂ : Ongoing L id h₁ h₂) (h₂₃ : Ongoing L id h₂ h₃) : Ongoing L id h₁ h₃ where
  subscriptions := fun b => (h₂₃.subscriptions b).trans (h₁₂.subscriptions b)
  subscribed    := fun b => (h₂₃.subscribed b).trans (h₁₂.subscribed b)
  bus           := h₂₃.bus.trans h₁₂.bus
  template      := fun hl => (h₂₃.template hl).trans (h₁₂.template hl)

theorem changes {may : Change ξ → Prop} (hc : Changes may h h') (gentle : ∀ c, may c → Act.Gentle L c) :
    Ongoing L id h h' := by
  have same : h'.buses = h.buses := hc.buses (fun _ _ _ _ hm => gentle _ hm) fun _ hm => gentle _ hm
  have altered : Plugin.Altered may id _ _ := hc.plugin (.inr fun hm => gentle _ hm)
  constructor
  case subscriptions => exact fun b => by rw [bus_congr same]
  case subscribed => exact fun b => by rw [bus_congr same]
  case bus => exact altered.bus
  case template => exact fun hl => altered.template.resolve_left fun hm => hl (gentle _ hm)

theorem refl : Ongoing L id h h :=
  have none : Changes (fun _ => False) h h := .refl
  changes none nofun

theorem silent (hb : h'.buses = h.buses) (hp : h'.plugins = h.plugins) : Ongoing L id h h' where
  subscriptions := fun b => by rw [bus_congr hb]
  subscribed    := fun b => by rw [bus_congr hb]
  bus           := by rw [plugin, plugin, hp]
  template      := fun _ => by rw [plugin, plugin, hp]

theorem number (em : Emission) : Ongoing L id h (em.numbered h) where
  subscriptions := by
    intro b
    rw [em.bus_numbered]
    split
    case isTrue he => exact he ▸ rfl
    case isFalse => rfl
  subscribed    := by
    intro b
    rw [em.bus_numbered]
    split
    case isTrue he => exact he ▸ rfl
    case isFalse => rfl
  bus           := rfl
  template      := fun _ => rfl

theorem carryOut {a : Act ξ} {h₀ : Host ξ σ} (ho : Ongoing L id h₀ h) (chatting : a.Chatting L)
    (turn : ∀ t ∈ a.turns guests h, ∀ x, t.subscription.observer = .guest x →
      Ongoing L id h₀ t.before → Ongoing L id h₀ t.after) :
    Ongoing L id h₀ (a.carryOut guests h).2 := by
  apply And.left
  apply Act.carryOut_preserves (P := Ongoing L id h₀)
  case opened => exact ho.trans (changes (a.opening_changes h) fun _ hm => chatting.gentle hm)
  case number => exact fun em _ ho => ho.trans (number em)
  case delivered => exact fun _ _ _ _ ho => ho.trans (silent rfl rfl)
  case failed => exact fun _ _ _ _ ho => ho.trans (silent rfl rfl)
  case turn =>
    intro t ht ho
    cases t.guest_or_plugin with
    | inl guest  => exact turn t ht guest.choose guest.choose_spec ho
    | inr plugin =>
      refine ho.trans (changes (t.changes ht plugin) ?_)
      rintro _ ⟨id', _, rfl⟩
      trivial
  case close => exact fun k ho => (chatting.closing k).symm ▸ ho

end Ongoing
end Host

theorem Program.Keeps.acts {permitted : Act ξ → Prop} {p : Program ξ σ α} (keeps : p.Keeps permitted)
    {performing : (a : Act ξ) → Host ξ σ → Except Failure a.Reply × Host ξ σ} {h h' : Host ξ σ} {a : Act ξ}
    (hm : (a, h') ∈ p.acts performing h) : permitted a := by
  induction p generalizing h with
  | done _         => cases hm
  | look next ih   => exact ih h (keeps h) hm
  | keep _ next ih => exact ih keeps hm
  | act _ next ih  =>
    cases hm with
    | head      => exact keeps.left
    | tail _ hm => exact ih _ (keeps.right _) hm

namespace Behaviour

variable {behave : Behaviour ξ σ} {L : PluginId → Prop} {id : PluginId} {h h' h₀ : Host ξ σ}

theorem Course.mild (mild : ∀ x e, (behave x e).Keeps (Act.Mild L)) {n m : Nat} {a a' : Act ξ}
    (hc : Course behave n a h m a' h') (ha : a.Mild L) : a'.Mild L := by
  induction hc with
  | refl => exact ha
  | nest _ _ hm _ ih => exact ih ((mild _ _).acts hm)

theorem Course.chatting (mild : ∀ x e, (behave x e).Keeps (Act.Mild L)) {n m : Nat} {a a' : Act ξ}
    (hc : Course behave n a h m a' h') (ha : a.Chatting L) : a'.Chatting L := by
  cases hc with
  | refl => exact ha
  | nest _ _ hm hc => exact (hc.mild mild ((mild _ _).acts hm)).chatting

theorem ongoing_perform (mild : ∀ x e, (behave x e).Keeps (Act.Mild L)) (n : Nat) {a : Act ξ}
    (chatting : a.Chatting L) : Host.Ongoing L id h (Host.perform behave n a h).2 :=
  perform_preserves (P := Host.Ongoing L id) (fun _ _ _ ho => ho.trans (.silent rfl rfl))
    (fun _ _ _ chatting turn h₀ ho => ho.carryOut chatting fun t ht x hx => turn t ht x hx h₀)
    (fun _ _ _ hc => hc.chatting mild chatting) h .refl

end Behaviour
end Chatline
