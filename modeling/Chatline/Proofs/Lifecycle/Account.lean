import Chatline.Proofs.Lifecycle.Career
import Chatline.Proofs.Passing.Enrolment

namespace Chatline.Host

variable {ξ σ : Type} {id : PluginId} {h h₀ h' k : Host ξ σ} {ms : List (Milestone ξ σ)}

theorem mem_bus_subscribe {b c : BusId} {topic : String} {priority : Priority} {observer : Observer ξ}
    {s : Subscription (Observer ξ)} :
    s ∈ ((h.subscribe b topic priority observer).2.bus c).subscriptions ↔
      c = b ∧ s = { serial := (h.bus b).subscribed, topic, priority, observer } ∨
        s ∈ (h.bus c).subscriptions := by
  rw [bus_subscribe]
  split
  case isTrue he => simp [he, Bus.mem_subscribe]
  case isFalse hn => simp [hn]

theorem mem_bus_unsubscribe {b : BusId} {i : SubscriptionId} {s : Subscription (Observer ξ)} :
    s ∈ ((h.unsubscribe i).bus b).subscriptions ↔ s ∈ (h.bus b).subscriptions ∧ ⟨b, s.serial⟩ ≠ i := by
  by_cases live : (h.bus i.bus).isLive i.serial
  case pos =>
    rw [bus_unsubscribe_of_live live]
    split
    case isTrue he =>
      subst he
      rw [Bus.mem_unsubscribe]
      exact and_congr_right fun _ => not_congr ⟨fun he => by rw [he], fun he => congrArg SubscriptionId.serial he⟩
    case isFalse hn =>
      have other : ⟨b, s.serial⟩ ≠ i := fun he => hn (congrArg SubscriptionId.bus he)
      exact (and_iff_left other).symm
  case neg =>
    simp only [Host.unsubscribe]
    rw [if_neg live]
    refine ⟨fun hs => ⟨hs, fun he => live ?_⟩, And.left⟩
    subst he
    exact Bus.isLive_iff.mpr ⟨s, hs, rfl⟩

theorem mem_bus_unsubscribeAll {b : BusId} {is : List SubscriptionId} {s : Subscription (Observer ξ)} :
    s ∈ ((is.foldl unsubscribe h).bus b).subscriptions ↔
      s ∈ (h.bus b).subscriptions ∧ ⟨b, s.serial⟩ ∉ is := by
  induction is generalizing h with
  | nil => simp
  | cons i is ih => rw [List.foldl_cons, ih, mem_bus_unsubscribe, List.mem_cons, not_or, and_assoc]

theorem mem_bus_disable {b : BusId} {s : Subscription (Observer ξ)} :
    s ∈ ((h.disable id).bus b).subscriptions ↔
      s ∈ (h.bus b).subscriptions ∧ ⟨b, s.serial⟩ ∉ (h.plugin id).subscriptions :=
  mem_bus_unsubscribeAll

theorem held_disable : ((h.disable id).plugin id).subscriptions = [] := by
  simp only [disable]
  rw [plugin_setPlugin, if_pos rfl]

theorem subscribed_disable (b : BusId) : (h.bus b).subscribed ≤ ((h.disable id).bus b).subscribed :=
  (Apart.dropAll _ : Apart True id h _).subscribed b

theorem serial_subscribe {b : BusId} {topic : String} {priority : Priority} {observer : Observer ξ} :
    (h.subscribe b topic priority observer).1 = ⟨b, (h.bus b).subscribed⟩ :=
  rfl

theorem mem_held_listen {b : BusId} {n : Nat} : ⟨b, n⟩ ∈ ((h.listen id).plugin id).subscriptions ↔
    b = (h.plugin id).bus ∧ (h.bus b).subscribed ≤ n ∧ n < (h.bus b).subscribed + 4 := by
  simp only [listen]
  rw [plugin_setPlugin, if_pos rfl]
  simp only [serial_subscribe, subscribed_subscribe, if_true, List.mem_cons, List.not_mem_nil, or_false,
    SubscriptionId.mk.injEq, ← and_or_left]
  refine and_congr_right fun he => ?_
  subst he
  omega

theorem mem_bus_listen {b : BusId} {s : Subscription (Observer ξ)}
    (hs : s ∈ ((h.listen id).bus b).subscriptions) :
    s ∈ (h.bus b).subscriptions ∨ ⟨b, s.serial⟩ ∈ ((h.listen id).plugin id).subscriptions := by
  rw [mem_held_listen]
  rw [bus_listen] at hs
  simp only [mem_bus_subscribe, subscribed_subscribe, if_true] at hs
  obtain ⟨rfl, rfl⟩ | ⟨rfl, rfl⟩ | ⟨rfl, rfl⟩ | ⟨rfl, rfl⟩ | hs := hs
  case inr.inr.inr.inr => exact .inl hs
  all_goals exact .inr ⟨rfl, by dsimp only; omega⟩

-- An account of what is subscribed of a plugin: it is either known to the plugin, or it was there already when
-- the plugin began to listen anew, and then the plugin has forgotten it.
structure Account (id : PluginId) (ms : List (Milestone ξ σ)) (h : Host ξ σ) : Prop where
  attached  : id.number < h.fresh
  counted   : ∀ b, ∀ s ∈ (h.bus b).subscriptions, s.serial < (h.bus b).subscribed
  past      : ∀ k, .began k ∈ ms → ∀ b, ∀ s ∈ (k.bus b).subscriptions, s.serial < (h.bus b).subscribed
  known     : ∀ b, ∀ s ∈ (h.bus b).subscriptions, s.observer.plugin? = some id →
    ⟨b, s.serial⟩ ∈ (h.plugin id).subscriptions ∨ ∃ k, .began k ∈ ms ∧ s ∈ (k.bus b).subscriptions
  forgotten : ∀ k, .began k ∈ ms → ∀ b, ∀ s ∈ (k.bus b).subscriptions,
    ⟨b, s.serial⟩ ∉ (h.plugin id).subscriptions

namespace Account

theorem apart (ha : Account id ms h) (hp : Apart True id h h') : Account id ms h' where
  attached  := Nat.lt_of_lt_of_le ha.attached hp.fresh
  counted   := by
    intro b s hs
    cases hp.subscriptions b s hs with
    | inl hs  => exact Nat.lt_of_lt_of_le (ha.counted b s hs) (hp.subscribed b)
    | inr new => exact new.left
  past      := fun k hk b s hs => Nat.lt_of_lt_of_le (ha.past k hk b s hs) (hp.subscribed b)
  known     := by
    intro b s hs hi
    rw [hp.held ha.attached]
    cases hp.subscriptions b s hs with
    | inl hs  => exact ha.known b s hs hi
    | inr new => exact absurd hi new.right
  forgotten := by
    rw [hp.held ha.attached]
    exact ha.forgotten

theorem listen (ha : Account id ms h) : Account id (ms ++ [.began h]) (h.listen id) := by
  have later (b : BusId) : (h.bus b).subscribed ≤ ((h.listen id).bus b).subscribed := by
    rw [subscribed_listen]
    exact Nat.le_add_right _ _
  have old (k : Host ξ σ) (hk : .began k ∈ ms ++ [.began h]) (b : BusId) (s : Subscription (Observer ξ))
      (hs : s ∈ (k.bus b).subscriptions) : s.serial < (h.bus b).subscribed := by
    cases List.mem_append.mp hk with
    | inl hk => exact ha.past k hk b s hs
    | inr hk =>
      cases List.mem_singleton.mp hk
      exact ha.counted b s hs
  constructor
  case attached => exact ha.attached
  case counted =>
    intro b s hs
    cases mem_bus_listen hs with
    | inl hs  => exact Nat.lt_of_lt_of_le (ha.counted b s hs) (later b)
    | inr new =>
      have ⟨here, _, bound⟩ := mem_held_listen.mp new
      rw [subscribed_listen, if_pos here]
      exact bound
  case past => exact fun k hk b s hs => Nat.lt_of_lt_of_le (old k hk b s hs) (later b)
  case known =>
    intro b s hs _
    cases mem_bus_listen hs with
    | inl hs  => exact .inr ⟨h, List.mem_append_right _ (.head _), hs⟩
    | inr new => exact .inl new
  case forgotten =>
    -- Whatever was there before has a lower number than the four that are known from now on.
    intro k hk b s hs new
    exact Nat.not_lt_of_le (mem_held_listen.mp new).right.left (old k hk b s hs)

theorem disable (ha : Account id ms h) : Account id (ms ++ [.ended h]) (h.disable id) := by
  have began {k : Host ξ σ} : .began k ∈ ms ++ [.ended h] ↔ .began k ∈ ms := by simp
  constructor
  case attached =>
    exact Nat.lt_of_lt_of_le ha.attached (Apart.dropAll _ : Apart True id h _).fresh
  case counted =>
    intro b s hs
    exact Nat.lt_of_lt_of_le (ha.counted b s (mem_bus_disable.mp hs).left) (subscribed_disable b)
  case past =>
    intro k hk b s hs
    exact Nat.lt_of_lt_of_le (ha.past k (began.mp hk) b s hs) (subscribed_disable b)
  case known =>
    intro b s hs hi
    have ⟨hs, unknown⟩ := mem_bus_disable.mp hs
    have ⟨k, hk, hs⟩ := (ha.known b s hs hi).resolve_left unknown
    exact .inr ⟨k, began.mpr hk, hs⟩
  case forgotten =>
    rw [held_disable]
    exact fun _ _ _ _ _ => List.not_mem_nil

theorem career (ha : Account id [] h₀) (hc : Career id h₀ ms h) : Account id ms h := by
  induction hc with
  | refl => exact ha
  | apart _ hp ih => exact ih.apart hp
  | listen _ ih => exact ih.listen
  | disable _ ih => exact ih.disable

end Account

theorem Sound.account (hs : h.Sound) (attached : id.number < h.fresh) (silent : ¬ h.Observes id) :
    Account id [] h where
  attached  := attached
  counted   := fun b => (hs.orderly b).counted
  past      := fun _ hk => nomatch hk
  known     := fun b s hs hi => absurd ⟨b, s, hs, hi⟩ silent
  forgotten := fun _ hk => nomatch hk

theorem Account.silent_disable (ha : Account id ms h) : ¬ (h.disable id).Observes id ↔
    ∀ k, .began k ∈ ms → ∀ b, ∀ s ∈ (k.bus b).subscriptions, s.observer.plugin? = some id →
      s ∉ (h.bus b).subscriptions := by
  constructor
  case mp =>
    intro silent k hk b s past hi hs
    exact silent ⟨b, s, mem_bus_disable.mpr ⟨hs, ha.forgotten k hk b s past⟩, hi⟩
  case mpr =>
    intro ended ⟨b, s, hs, hi⟩
    have ⟨hs, unknown⟩ := mem_bus_disable.mp hs
    have ⟨k, hk, past⟩ := (ha.known b s hs hi).resolve_left unknown
    exact ended k hk b s past hi hs

end Chatline.Host
