import Chatline.Proofs.Lifecycle.Account
import Chatline.Proofs.Lifecycle.Resting
import Chatline.Proofs.Passing.Delivered

namespace Chatline

variable {ξ σ α β : Type}

-- A plugin has no part in an act: it is not notified, and a message that everyone else passes on as it is goes
-- out in the format of the host.
structure Act.Bypasses (id : PluginId) (guests : Guests ξ σ) (a : Act ξ) (h : Host ξ σ) : Prop where
  turns  : ∀ t ∈ a.turns guests h, t.subscription.observer.plugin? ≠ some id
  format : ∀ b player body, a = .publish b player body →
    (∀ t ∈ a.turns guests h, t.subscription.observer.plugin? ≠ some id → t.KeepsFormat) →
    (h.publish guests b player body).1.format = ChatMessage.hostFormat

theorem Host.Resting.bypasses {id : PluginId} {bindings : Bindings} {h : Host ξ σ} (hr : Resting id bindings h)
    {a : Act ξ} (spares : a.Spares id) (guests : Guests ξ σ) : a.Bypasses id guests h where
  turns  := hr.turns spares
  format := by
    intro b player body he keeps
    subst he
    exact publish_format fun t ht => keeps t ht (hr.turns spares t ht)

namespace Behaviour

-- A plugin that has been disabled observes nothing, provided that nothing of it had been left subscribed
-- whenever it began to listen. Enabling it makes it forget the subscriptions that it has already, so disabling
-- it does not end them. If nothing of it is left, it has no part in anything until it is put to work again.
theorem silent_after_disable {behave : Behaviour ξ σ} {id : PluginId} {l n : Nat} {h k : Host ξ σ}
    (files : FileTree) (environment : Environment) (memory : σ) (before : Program ξ σ β)
    (reached : (before.run (Host.perform behave l) (.new files environment memory)).2 = h)
    (attached : id.number < h.fresh) (silent : ¬ h.Observes id)
    (p : Program ξ σ α) {earlier later : List (Milestone ξ σ)}
    (career : behave.career id n p h = earlier ++ .ended k :: later) :
    (¬ (k.disable id).Observes id ↔
      ∀ k', .began k' ∈ earlier → ∀ b, ∀ s ∈ (k'.bus b).subscriptions, s.observer.plugin? = some id →
        s ∉ (k.bus b).subscriptions) ∧
    (¬ (k.disable id).Observes id → ∀ (m : Nat) {γ : Type} (q : Program ξ σ γ),
      (∀ a h₁, (a, h₁) ∈ q.acts (Host.perform behave m) (k.disable id) →
        ∀ i a' h₂, Course behave m a h₁ i a' h₂ → a'.Spares id) →
      ((q.run (Host.perform behave m) (k.disable id)).2.plugin id).bindings = (k.plugin id).bindings ∧
      ∀ a h₁, (a, h₁) ∈ q.acts (Host.perform behave m) (k.disable id) →
        ∀ i a' h₂, Course behave m a h₁ (i + 1) a' h₂ →
          (h₂.plugin id).bindings = (k.plugin id).bindings ∧ a'.Bypasses id (behave.guests i) h₂) := by
  have sound : h.Sound := reached ▸ .run before l files environment memory
  have lived : Host.Career id h (behave.career id n p h) (p.run (Host.perform behave n) h).2 :=
    Host.Career.refl.run p n
  have account : k.Account id earlier := (sound.account attached silent).career (lived.until_ended career)
  constructor
  case left => exact account.silent_disable
  case right =>
    intro silent m _ q spares
    have resting : (k.disable id).Resting id (k.plugin id).bindings :=
      ⟨account.disable.attached, silent, Host.bindings_disable account.attached⟩
    have ⟨ended, between⟩ := resting.run q spares
    refine ⟨ended.bindings, fun a h₁ hm i a' h₂ hc => ?_⟩
    have here := (between a h₁ hm).course (spares a h₁ hm) hc
    exact ⟨here.bindings, here.bypasses (spares a h₁ hm _ _ _ hc) _⟩

def enableAndDisable : Program Empty Unit Unit := do
  let _ ← Program.perform (.enable ⟨2⟩ (some .default))
  let _ ← Program.perform (.disable ⟨2⟩)

def enabledOnce : Host Empty Unit :=
  (Host.perform idle 2 (.enable ⟨2⟩ (some .default)) unattended).2

def registerLate : Program Empty Unit Unit := do
  let _ ← Program.perform (.register ⟨1⟩ .chatMeta ⟨3⟩)

theorem silent_after_disable_once :
    ¬ (enabledOnce.disable ⟨2⟩).Observes ⟨2⟩ ∧
      ((registerLate.run (Host.perform idle 2) (enabledOnce.disable ⟨2⟩)).2.plugin ⟨2⟩).bindings = {} := by
  have vacant : ¬ unattended.Observes ⟨2⟩ := fun ⟨_, _, hs, _⟩ => nomatch hs
  have career : idle.career ⟨2⟩ 2 enableAndDisable unattended = [.began _] ++ .ended enabledOnce :: [] := rfl
  have ⟨observed, resting⟩ := silent_after_disable .bare {} () _ rfl (by decide) vacant enableAndDisable career
  have silent : ¬ (enabledOnce.disable ⟨2⟩).Observes ⟨2⟩ := by
    refine observed.mpr fun k' hk b s hs => ?_
    cases List.mem_singleton.mp hk
    let announcement : Emission :=
      { bus := ⟨0⟩, topic := Host.reloadedTopic, source := Host.reloadedSource
        payload := .ofTemplate (.compile Settings.default.format) }
    have hs : s ∈ ((announcement.numbered unattended).bus b).subscriptions := hs
    rw [announcement.bus_numbered] at hs
    split at hs <;> cases hs
  refine ⟨silent, (resting silent 2 registerLate ?_).left⟩
  intro a h₁ hm i a' h₂ hc
  cases hm with
  | tail _ hm => cases hm
  | head      =>
    cases hc with
    | refl => trivial
    | @nest _ _ _ _ x => exact x.elim

def enableTwice : Program Empty Unit Unit := do
  let _ ← Program.perform (.enable ⟨2⟩ (some .default))
  let _ ← Program.perform (.enable ⟨2⟩ (some .default))

-- It takes more than disabling the plugin once to be rid of it. What it has subscribed at first is left, and
-- the messages go on having its format.
theorem observes_after_enabled_twice :
    let h := (enableTwice.run (Host.perform idle 2) unattended).2
    let k := (Host.perform idle 2 (.disable ⟨2⟩) h).2
    (Host.perform idle 2 (.disable ⟨2⟩) h).1 = .ok () ∧ k.Observes ⟨2⟩ ∧
      ((k.bus ⟨0⟩).live Host.chatTopic).map (·.observer) = [.installer ⟨2⟩, .resolver ⟨2⟩] ∧
      ((k.bus ⟨0⟩).live Directory.registered).map (·.observer) = [.rebinder ⟨2⟩] ∧
      ((k.bus ⟨0⟩).live Directory.unregistered).map (·.observer) = [.rebinder ⟨2⟩] ∧
      ∃ m h', Host.perform idle 2 (.publish ⟨0⟩ (.offline "Ann" none) "hi") k = (.ok m, h') ∧
        m.format ≠ ChatMessage.hostFormat :=
  ⟨rfl, ⟨⟨0⟩, _, .head _, rfl⟩, rfl, rfl, rfl, _, _, rfl, by decide +kernel⟩

end Behaviour
end Chatline
