import Chatline.Proofs.Lifecycle.Apart

namespace Chatline

variable {ξ σ α : Type}

def Act.Spares (id : PluginId) : Act ξ → Prop
  | enable id' _ => id' ≠ id
  | refresh id'  => id' ≠ id
  | _            => True

def Turn.KeepsFormat (t : Turn ξ σ) : Prop :=
  t.reaction.payload.message.map (·.format) = t.event.payload.message.map (·.format)

namespace Host

variable {id : PluginId} {bindings : Bindings} {h h' : Host ξ σ} {guests : Guests ξ σ}

theorem deliver_format {b : BusId} {e : Envelope} {ss : List (Subscription (Observer ξ))} {p : Payload}
    (keeps : ∀ t ∈ turns guests b e ss p h, t.KeepsFormat) :
    (deliver guests b e ss p h).1.message.map (·.format) = p.message.map (·.format) := by
  induction ss generalizing p h with
  | nil => rfl
  | cons s ss ih => exact (ih fun t ht => keeps t (.tail _ ht)).trans (keeps _ (.head _))

theorem publish_format {b : BusId} {player : Player} {body : String}
    (keeps : ∀ t ∈ (Act.publish b player body).turns guests h, t.KeepsFormat) :
    (h.publish guests b player body).1.format = ChatMessage.hostFormat := by
  let em : Emission := { bus := b, topic := chatTopic, source := chatSource, payload := .ofChat (.new player body) }
  have delivered : (em.carryOut guests h).1.2.message.map (·.format) = some ChatMessage.hostFormat :=
    deliver_format keeps
  have published : (h.publish guests b player body).1 =
    (em.carryOut guests h).1.2.message.getD (.new player body) := rfl
  rw [published]
  cases hm : (em.carryOut guests h).1.2.message with
  | none   => rfl
  | some m =>
    rw [hm] at delivered
    exact Option.some.inj delivered

theorem bindings_disable (attached : id.number < h.fresh) :
    ((h.disable id).plugin id).bindings = (h.plugin id).bindings := by
  have ended : Apart False id h ((h.plugin id).subscriptions.foldl unsubscribe h) := .dropAll _
  simp only [disable]
  rw [plugin_setPlugin, if_pos rfl]
  exact (ended.bindings attached).resolve_left not_false

-- A plugin that does not observe anything, with the bindings that it has been left with.
structure Resting (id : PluginId) (bindings : Bindings) (h : Host ξ σ) : Prop where
  attached : id.number < h.fresh
  silent   : ¬ h.Observes id
  bindings : (h.plugin id).bindings = bindings

namespace Resting

theorem apart (hr : Resting id bindings h) (ha : Apart False id h h') : Resting id bindings h' where
  attached := Nat.lt_of_lt_of_le hr.attached ha.fresh
  silent   := fun ho => hr.silent (ha.observes ho)
  bindings := ((ha.bindings hr.attached).resolve_left not_false).trans hr.bindings

theorem disable (hr : Resting id bindings h) : Resting id bindings (h.disable id) := by
  have ended : Resting id bindings ((h.plugin id).subscriptions.foldl unsubscribe h) :=
    hr.apart (.dropAll _)
  exact ⟨ended.attached, ended.silent, (bindings_disable hr.attached).trans hr.bindings⟩

theorem opening (hr : Resting id bindings h) {a : Act ξ} (spares : a.Spares id) :
    Resting id bindings (a.opening h).2 := by
  by_cases hd : a = .disable id
  case pos =>
    subst hd
    exact hr.disable
  case neg =>
    refine hr.apart (.opening hd fun hb => ?_)
    subst hb
    exact spares rfl

theorem turns (hr : Resting id bindings h) {a : Act ξ} (spares : a.Spares id) :
    ∀ t ∈ a.turns guests h, t.subscription.observer.plugin? ≠ some id := by
  have opened := hr.opening spares
  cases a.carryOut_cases guests h with
  | inl silent    => exact silent.right.right ▸ fun _ ht => nomatch ht
  | inr announced =>
    have ⟨em, _, _, notified⟩ := announced
    rw [notified]
    intro t ht hi
    have subscribed : t.subscription ∈ (em.turns guests (a.opening h).2).map (·.subscription) :=
      List.mem_map_of_mem ht
    rw [Emission.turns, turns_subscription] at subscribed
    exact opened.silent ⟨em.bus, t.subscription, (Bus.mem_live.mp subscribed).left, hi⟩

theorem carryOut (hr : Resting id bindings h) {a : Act ξ} (spares : a.Spares id)
    (turn : ∀ t ∈ a.turns guests h, ∀ x, t.subscription.observer = .guest x →
      Resting id bindings t.before → Resting id bindings t.after) :
    Resting id bindings (a.carryOut guests h).2 ∧ ∀ t ∈ a.turns guests h, Resting id bindings t.before := by
  apply Act.carryOut_preserves (P := Resting id bindings) (hr.opening spares)
  case number => exact fun em _ hr => hr.apart (.number em)
  case delivered => exact fun _ _ _ _ hr => hr.apart (.note _)
  case failed => exact fun _ _ _ _ hr => hr.apart (.note _)
  case turn =>
    intro t ht hb
    cases t.guest_or_plugin with
    | inl guest  => exact turn t ht guest.choose guest.choose_spec hb
    | inr plugin => exact hb.apart (.turn ht plugin (hr.turns spares t ht))
  case close =>
    refine fun _ hr => hr.apart (.closing fun settings ha => ?_)
    subst ha
    exact spares rfl

variable {behave : Behaviour ξ σ} {n m : Nat} {a a' : Act ξ}

theorem perform (hr : Resting id bindings h)
    (spares : ∀ m a' h', Behaviour.Course behave n a h m a' h' → a'.Spares id) :
    Resting id bindings (Host.perform behave n a h).2 :=
  Behaviour.perform_preserves (P := fun _ : Unit => Resting id bindings)
    (fun _ _ _ hr => hr.apart (.same rfl rfl (Nat.le_refl _)))
    (fun _ _ _ spares turn _ hr => (hr.carryOut spares fun t ht x hx => turn t ht x hx ()).left)
    spares () hr

theorem run (hr : Resting id bindings h) (p : Program ξ σ α)
    (spares : ∀ a h', (a, h') ∈ p.acts (Host.perform behave n) h →
      ∀ m a' h'', Behaviour.Course behave n a h' m a' h'' → a'.Spares id) :
    Resting id bindings (p.run (Host.perform behave n) h).2 ∧
      ∀ a h', (a, h') ∈ p.acts (Host.perform behave n) h → Resting id bindings h' :=
  p.run_preserves (fun _ _ hr => hr.apart (.same rfl rfl (Nat.le_refl _)))
    (fun a h' hm hr => hr.perform (spares a h' hm)) hr

theorem course (hr : Resting id bindings h)
    (spares : ∀ m a' h', Behaviour.Course behave n a h m a' h' → a'.Spares id)
    (hc : Behaviour.Course behave n a h m a' h') : Resting id bindings h' := by
  induction hc with
  | refl => exact hr
  | @nest n a h t x a₁ h₁ m a₂ h₂ ht hx hm _ ih =>
    have nested {t' : Turn ξ σ} {x' : ξ} (ht' : t' ∈ a.turns (behave.guests n) h)
        (hx' : t'.subscription.observer = .guest x') (hb : Resting id bindings t'.before) :=
      hb.run (behave x' t'.event) fun _ _ hm' _ _ _ hc => spares _ _ _ (.nest ht' hx' hm' hc)
    have before : Resting id bindings t.before := by
      refine (hr.carryOut (spares _ _ _ .refl) fun t' ht' x' hx' hb => ?_).right t ht
      rw [Behaviour.after_eq_run ht' hx']
      exact (nested ht' hx' hb).left
    exact ih ((nested ht hx before).right _ _ hm) fun _ _ _ hc => spares _ _ _ (.nest ht hx hm hc)

end Resting
end Host
end Chatline
