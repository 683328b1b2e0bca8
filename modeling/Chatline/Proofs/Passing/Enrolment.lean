import Chatline.Proofs.Passing.Lineup
import Chatline.Proofs.Passing.Pipeline

namespace Chatline

variable {ξ σ : Type}

namespace Host

def Sorted (h : Host ξ σ) : Prop :=
  ∀ b, (h.bus b).Sorted

def enrol (h : Host ξ σ) (b : BusId) (xs : List (Priority × ξ)) : Host ξ σ :=
  xs.foldl (fun h x => (h.subscribe b chatTopic x.1 (.guest x.2)).2) h

-- The observers of the messages on a bus are guests and a plugin, which has put itself around them.
structure Staffed (b : BusId) (id : PluginId) (xs : List (Priority × ξ)) (h : Host ξ σ) : Prop where
  sorted : h.Sorted
  roles  : (h.bus b).roles chatTopic = staffed id xs

variable {T : BusId → String → Prop} {h h' : Host ξ σ} {id : PluginId} {b : BusId} {xs ys : List (Priority × ξ)}

theorem bus_listen (h : Host ξ σ) (id : PluginId) (b : BusId) : (h.listen id).bus b =
    ((((h.subscribe (h.plugin id).bus chatTopic .lowest (.installer id)).2.subscribe
      (h.plugin id).bus chatTopic .highest (.resolver id)).2.subscribe
      (h.plugin id).bus Directory.registered .normal (.rebinder id)).2.subscribe
      (h.plugin id).bus Directory.unregistered .normal (.rebinder id)).2.bus b :=
  rfl

theorem subscribed_subscribe (h : Host ξ σ) (b c : BusId) (topic : String) (priority : Priority)
    (observer : Observer ξ) : ((h.subscribe b topic priority observer).2.bus c).subscribed =
      (h.bus c).subscribed + if c = b then 1 else 0 := by
  rw [bus_subscribe]
  split
  case isTrue he => rw [he]; rfl
  case isFalse => rfl

theorem subscribed_enrol (h : Host ξ σ) (b c : BusId) (xs : List (Priority × ξ)) :
    ((h.enrol b xs).bus c).subscribed = (h.bus c).subscribed + if c = b then xs.length else 0 := by
  induction xs generalizing h with
  | nil          => split <;> rfl
  | cons x xs ih =>
    have hi := ih (h.subscribe b chatTopic x.1 (.guest x.2)).2
    rw [subscribed_subscribe] at hi
    refine hi.trans ?_
    split
    case isTrue => rw [List.length_cons]; omega
    case isFalse => rfl

theorem subscribed_listen (h : Host ξ σ) (id : PluginId) (c : BusId) :
    ((h.listen id).bus c).subscribed = (h.bus c).subscribed + if c = (h.plugin id).bus then 4 else 0 := by
  rw [bus_listen, subscribed_subscribe, subscribed_subscribe, subscribed_subscribe, subscribed_subscribe]
  split <;> omega

theorem plugin_enrol (h : Host ξ σ) (b : BusId) (xs : List (Priority × ξ)) :
    (h.enrol b xs).plugin = h.plugin := by
  induction xs generalizing h with
  | nil          => rfl
  | cons x xs ih => exact ih _

theorem template_listen (h : Host ξ σ) (id id' : PluginId) :
    ((h.listen id).plugin id').template = (h.plugin id').template := by
  have held : Changes (· = .hold id) _ (h.listen id) := .hold .refl rfl
  exact (held.plugin (.inr nofun)).template.resolve_left nofun

theorem Sound.sorted (hs : h.Sound) : h.Sorted :=
  fun b => (hs.orderly b).sorted

namespace Sorted

theorem ongoing (hs : h.Sorted) {L : PluginId → Prop} (ho : Ongoing L id h h') : h'.Sorted := by
  intro b
  simp only [Bus.Sorted]
  rw [ho.subscriptions]
  exact hs b

theorem subscribe (hs : h.Sorted) (b : BusId) (topic : String) (priority : Priority)
    (observer : Observer ξ) : (h.subscribe b topic priority observer).2.Sorted := by
  intro b'
  rw [bus_subscribe]
  split
  case isTrue => exact (hs b).subscribe topic priority observer
  case isFalse => exact hs b'

theorem roles_subscribe (hs : h.Sorted) (b b' : BusId) (topic topic' : String) (priority : Priority)
    (observer : Observer ξ) :
    ((h.subscribe b topic priority observer).2.bus b').roles topic' =
      if b' = b ∧ topic = topic' then Bus.place (priority, observer) ((h.bus b').roles topic')
      else (h.bus b').roles topic' := by
  rw [bus_subscribe]
  by_cases hb : b' = b
  case pos =>
    subst hb
    rw [if_pos rfl, (hs b').roles_subscribe]
    simp only [true_and]
  case neg => simp [hb]

theorem enrol (hs : h.Sorted) (b : BusId) (xs : List (Priority × ξ)) : (h.enrol b xs).Sorted := by
  induction xs generalizing h with
  | nil => exact hs
  | cons x xs ih => exact ih (hs.subscribe b chatTopic x.1 (.guest x.2))

theorem roles_enrol (hs : h.Sorted) (b : BusId) (xs : List (Priority × ξ)) :
    ((h.enrol b xs).bus b).roles chatTopic =
      xs.foldl (fun l x => Bus.place (x.1, .guest x.2) l) ((h.bus b).roles chatTopic) := by
  induction xs generalizing h with
  | nil => rfl
  | cons x xs ih =>
    have hi := ih (hs.subscribe b chatTopic x.1 (.guest x.2))
    rw [hs.roles_subscribe, if_pos ⟨rfl, rfl⟩] at hi
    exact hi

theorem listen (hs : h.Sorted) (id : PluginId) : (h.listen id).Sorted := by
  have hs := hs.subscribe (h.plugin id).bus chatTopic .lowest (.installer id)
  have hs := hs.subscribe (h.plugin id).bus chatTopic .highest (.resolver id)
  have hs := hs.subscribe (h.plugin id).bus Directory.registered .normal (.rebinder id)
  have hs := hs.subscribe (h.plugin id).bus Directory.unregistered .normal (.rebinder id)
  intro b
  rw [bus_listen]
  exact hs b

theorem staffed_listen (hs : h.Sorted) (hr : (h.bus (h.plugin id).bus).roles chatTopic = lineup xs) :
    Staffed (h.plugin id).bus id xs (h.listen id) where
  sorted := hs.listen id
  roles  := by
    have hs₁ := hs.subscribe (h.plugin id).bus chatTopic .lowest (.installer id)
    have hs₂ := hs₁.subscribe (h.plugin id).bus chatTopic .highest (.resolver id)
    have hs₃ := hs₂.subscribe (h.plugin id).bus Directory.registered .normal (.rebinder id)
    have registered : Directory.registered ≠ chatTopic := by decide
    have unregistered : Directory.unregistered ≠ chatTopic := by decide
    rw [bus_listen, hs₃.roles_subscribe, if_neg fun ht => unregistered ht.right, hs₂.roles_subscribe,
      if_neg fun ht => registered ht.right, hs₁.roles_subscribe, if_pos ⟨rfl, rfl⟩, hs.roles_subscribe,
      if_pos ⟨rfl, rfl⟩, hr, place_staffed]

end Sorted

namespace Alike

theorem subscribe (ha : Alike T h h') (hs : h.Sorted) (hs' : h'.Sorted) (b : BusId) (topic : String)
    (priority : Priority) (observer : Observer ξ) :
    Alike T (h.subscribe b topic priority observer).2 (h'.subscribe b topic priority observer).2 where
  rest     := ha.rest
  plugins  := ha.plugins
  sent     := by
    intro b'
    rw [bus_subscribe, bus_subscribe]
    split
    case isTrue => exact ha.sent b
    case isFalse => exact ha.sent b'
  roles    := by
    intro b' topic' ht
    rw [hs.roles_subscribe, hs'.roles_subscribe, ha.roles b' topic' ht]

theorem enrol (hs : h.Sorted) (b : BusId) (xs : List (Priority × ξ)) :
    Alike (besideChat b) h (h.enrol b xs) := by
  induction xs generalizing h with
  | nil => exact refl
  | cons x xs ih =>
    refine trans ?_ (ih (hs.subscribe b chatTopic x.1 (.guest x.2)))
    constructor
    case rest => rfl
    case plugins => exact fun _ => rfl
    case sent =>
      intro b'
      rw [bus_subscribe]
      split
      case isTrue he => rw [he]; rfl
      case isFalse => rfl
    case roles =>
      intro b' topic ht
      rw [hs.roles_subscribe, if_neg]
      exact fun ⟨hb, he⟩ => ht hb he.symm

theorem listen (ha : Alike T h h') (hs : h.Sorted) (hs' : h'.Sorted) (id : PluginId) :
    Alike T (h.listen id) (h'.listen id) := by
  have hb : (h.plugin id).bus = (h'.plugin id).bus := kindred.bus ha id
  have a₁ := ha.subscribe hs hs' (h.plugin id).bus chatTopic .lowest (.installer id)
  have s₁ := hs.subscribe (h.plugin id).bus chatTopic .lowest (.installer id)
  have s₁' := hs'.subscribe (h.plugin id).bus chatTopic .lowest (.installer id)
  have a₂ := a₁.subscribe s₁ s₁' (h.plugin id).bus chatTopic .highest (.resolver id)
  have s₂ := s₁.subscribe (h.plugin id).bus chatTopic .highest (.resolver id)
  have s₂' := s₁'.subscribe (h.plugin id).bus chatTopic .highest (.resolver id)
  have a₃ := a₂.subscribe s₂ s₂' (h.plugin id).bus Directory.registered .normal (.rebinder id)
  have s₃ := s₂.subscribe (h.plugin id).bus Directory.registered .normal (.rebinder id)
  have s₃' := s₂'.subscribe (h.plugin id).bus Directory.registered .normal (.rebinder id)
  have a₄ := a₃.subscribe s₃ s₃' (h.plugin id).bus Directory.unregistered .normal (.rebinder id)
  rw [hb] at a₄
  simp only [Host.listen]
  rw [hb]
  exact a₄.setPlugin id (ha.plugins id)

end Alike

end Host
end Chatline
