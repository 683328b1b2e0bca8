import Chatline.Proofs.Dispatch.Standing

namespace Chatline

variable {ξ σ α : Type}

namespace Bus

-- A bus agrees with the deeds that have led to it.
structure Registers (bus : Bus (Observer ξ)) (b : BusId) (ds : List (Deed ξ)) : Prop where
  orderly    : bus.Orderly
  subscribed : bus.subscribed = ds.countP (Deed.isOn b)
  standing   : bus.subscriptions.Perm (Deed.standing b 0 ds)

namespace Registers

variable {bus : Bus (Observer ξ)} {b : BusId} {ds : List (Deed ξ)}

theorem fresh (b : BusId) : (fresh : Bus (Observer ξ)).Registers b [] where
  orderly    := .fresh
  subscribed := rfl
  standing   := .nil

theorem extend {bus' : Bus (Observer ξ)} {d : Deed ξ} (hr : bus.Registers b ds)
    (subscriptions : bus'.subscriptions = bus.subscriptions) (subscribed : bus'.subscribed = bus.subscribed)
    (isOn : ¬d.isOn b) (isOff : ∀ n, ¬d.isOff ⟨b, n⟩) : bus'.Registers b (ds ++ [d]) where
  orderly := by
    constructor
    case ordered =>
      rw [subscriptions]
      exact hr.orderly.ordered
    case counted =>
      rw [subscriptions, subscribed]
      exact hr.orderly.counted
  subscribed := by
    rw [subscribed, hr.subscribed]
    simp [isOn]
  standing := by
    rw [subscriptions, Deed.standing_concat_of_not_isOff isOff, Deed.standing_cons_of_not_isOn isOn]
    simpa only [Deed.standing, List.append_nil] using hr.standing

theorem subscribe (hr : bus.Registers b ds) (topic : String) (priority : Priority) (observer : Observer ξ) :
    (bus.subscribe topic priority observer).Registers b (ds ++ [.on b topic priority observer]) where
  orderly    := hr.orderly.subscribe topic priority observer
  subscribed := by simp [Bus.subscribe, hr.subscribed, Deed.isOn]
  standing   := by
    have last : Deed.standing b bus.subscribed [.on b topic priority observer] =
        [{ serial := bus.subscribed, topic, priority, observer }] := Deed.standing_cons_on topic priority observer
    rw [Deed.standing_concat_of_not_isOff (by simp [Deed.isOff]), Nat.zero_add, ← hr.subscribed, last]
    exact (perm_insert _ _).trans (hr.standing.append_right _)

theorem unsubscribe (hr : bus.Registers b ds) (n : Nat) :
    (bus.unsubscribe n).Registers b (ds ++ [.off ⟨b, n⟩]) where
  orderly    := hr.orderly.unsubscribe n
  subscribed := by simp [Bus.unsubscribe, hr.subscribed, Deed.isOn]
  standing   := by
    rw [Deed.standing_append]
    simpa [Deed.isOff, Deed.standing, Bus.unsubscribe, eq_comm] using hr.standing.filter _

theorem apart (hr : bus.Registers b ds) : bus.subscriptions.Pairwise (·.serial ≠ ·.serial) :=
  (hr.standing.pairwise_iff fun hn => hn.symm).mpr ((Deed.standing_pairwise b 0 ds).imp Nat.ne_of_lt)

theorem live (hr : bus.Registers b ds) (topic : String) :
    bus.live topic = ((Deed.standing b 0 ds).filter (·.topic = topic)).mergeSort Subscription.byPriority :=
  Subscription.eq_mergeSort (hr.orderly.live topic) ((Deed.standing_pairwise b 0 ds).filter _) (hr.standing.filter _)

end Registers
end Bus

namespace Host

variable {h : Host ξ σ}

theorem bus_unsubscribe_eq (h : Host ξ σ) (id : SubscriptionId) (b : BusId) :
    (h.unsubscribe id).bus b = if b = id.bus then (h.bus id.bus).unsubscribe id.serial else h.bus b := by
  by_cases live : (h.bus id.bus).isLive id.serial
  case pos => exact bus_unsubscribe_of_live live b
  case neg =>
    have dead : (h.bus id.bus).unsubscribe id.serial = h.bus id.bus := Bus.unsubscribe_of_not_isLive live
    rw [bus_unsubscribe, if_neg (fun both => live both.left), dead]
    split <;> simp_all

theorem registers_carryOut {b : BusId} {ds : List (Deed ξ)} (hr : (h.bus b).Registers b ds) (d : Deed ξ) :
    ((d.carryOut h).bus b).Registers b (ds ++ [d]) := by
  cases d with
  | look    => exact hr.extend rfl rfl (by simp [Deed.isOn]) (by simp [Deed.isOff])
  | send em =>
    have numbered := em.bus_numbered h b
    refine hr.extend ?_ ?_ (by simp [Deed.isOn]) (by simp [Deed.isOff])
    all_goals
      rw [Deed.carryOut, numbered]
      split <;> simp_all [Bus.number]
  | on b' topic priority observer =>
    rw [Deed.carryOut, bus_subscribe]
    split
    case isTrue he =>
      subst he
      exact hr.subscribe topic priority observer
    case isFalse he => exact hr.extend rfl rfl (by simpa [Deed.isOn] using Ne.symm he) (by simp [Deed.isOff])
  | off id =>
    rw [Deed.carryOut, bus_unsubscribe_eq]
    split
    case isTrue he =>
      subst he
      exact hr.unsubscribe id.serial
    case isFalse he =>
      have elsewhere (n : Nat) : id ≠ ⟨b, n⟩ := fun hid => he (by rw [hid])
      exact hr.extend rfl rfl (by simp [Deed.isOn]) (by simpa [Deed.isOff] using elsewhere)

-- One host lacks a subscription that another one has, and this is all that distinguishes the observers of
-- their buses.
structure Lacks (h' h : Host ξ σ) (b : BusId) (s : Subscription (Observer ξ)) : Prop where
  missing : ∃ before after,
    (h.bus b).live s.topic = before ++ s :: after ∧ (h'.bus b).live s.topic = before ++ after
  others  : ∀ b' topic, b' ≠ b ∨ topic ≠ s.topic → (h'.bus b').live topic = (h.bus b').live topic

theorem lacks_unsubscribe {b : BusId} {s : Subscription (Observer ξ)}
    (apart : (h.bus b).subscriptions.Pairwise (·.serial ≠ ·.serial)) (hs : s ∈ (h.bus b).subscriptions) :
    (h.unsubscribe ⟨b, s.serial⟩).Lacks h b s := by
  have left (topic : String) : ((h.unsubscribe ⟨b, s.serial⟩).bus b).live topic =
      ((h.bus b).live topic).filter (·.serial ≠ s.serial) := by
    rw [bus_unsubscribe_eq, if_pos rfl]
    simp only [Bus.live, Bus.unsubscribe, List.filter_filter, Bool.and_comm]
  constructor
  case missing =>
    have hs : s ∈ (h.bus b).live s.topic := Bus.mem_live.mpr ⟨hs, rfl⟩
    obtain ⟨before, after, split, rest⟩ := Subscription.exists_split_of_mem (apart.filter _) hs
    exact ⟨before, after, split, (left s.topic).trans rest⟩
  case others =>
    intro b' topic different
    by_cases hb : b' = b
    case neg => rw [bus_unsubscribe_eq, if_neg hb]
    case pos =>
      subst hb
      have elsewhere : topic ≠ s.topic := by simpa using different
      rw [left, List.filter_eq_self]
      intro t ht
      obtain ⟨ht, on⟩ := Bus.mem_live.mp ht
      -- Numbers tell subscriptions apart, whatever their topics.
      have distinct (same : t.serial = s.serial) : False :=
        elsewhere (on ▸ congrArg _ (Subscription.eq_of_serial_eq apart hs ht same))
      simpa using distinct

namespace Timeline

variable {files : FileTree} {environment : Environment} {memory : σ} {ds : List (Deed ξ × Host ξ σ)}

theorem registers (hl : Timeline (.new files environment memory) ds h) (b : BusId) :
    (h.bus b).Registers b (ds.map (·.1)) := by
  induction hl with
  | refl => exact .fresh b
  | beside _ same ih => rwa [bus_congr same]
  | deed d _ ih =>
    rw [List.map_append]
    exact registers_carryOut ih d

theorem lacks {e₁ e₂ : List (Deed ξ × Host ξ σ)} {b : BusId} {topic : String} {priority : Priority}
    {observer : Observer ξ} {k₀ k : Host ξ σ} (begun : Timeline (.new files environment memory) e₁ k₀)
    (hl : Timeline (.new files environment memory) (e₁ ++ (.on b topic priority observer, k₀) :: e₂) k)
    (lasting : ¬e₂.any (·.1.isOff ⟨b, (k₀.bus b).subscribed⟩)) :
    (k.unsubscribe ⟨b, (k₀.bus b).subscribed⟩).Lacks k b
      { serial := (k₀.bus b).subscribed, topic, priority, observer } := by
  have hr := hl.registers b
  have lasting : ¬(e₂.map (·.1)).any (·.isOff ⟨b, (k₀.bus b).subscribed⟩) := by simpa using lasting
  have left := Deed.mem_standing_on topic priority observer (begun.registers b).subscribed lasting
  rw [List.map_append, List.map_cons] at hr
  exact lacks_unsubscribe hr.apart (hr.standing.mem_iff.mpr left)

theorem unsubscribe_eq_self {e₁ e₂ : List (Deed ξ × Host ξ σ)} {b : BusId} {topic : String}
    {priority : Priority} {observer : Observer ξ} {k₀ k : Host ξ σ}
    (begun : Timeline (.new files environment memory) e₁ k₀)
    (hl : Timeline (.new files environment memory) (e₁ ++ (.on b topic priority observer, k₀) :: e₂) k)
    (ended : e₂.any (·.1.isOff ⟨b, (k₀.bus b).subscribed⟩)) :
    k.unsubscribe ⟨b, (k₀.bus b).subscribed⟩ = k := by
  have hr := hl.registers b
  have ended : (e₂.map (·.1)).any (·.isOff ⟨b, (k₀.bus b).subscribed⟩) := by simpa using ended
  rw [List.map_append, List.map_cons] at hr
  apply if_neg
  intro live
  have ⟨s, hs, he⟩ := Bus.isLive_iff.mp live
  exact Deed.serial_ne_of_mem_standing (begun.registers b).subscribed ended (hr.standing.mem_iff.mp hs) he

end Timeline
end Host

-- At every moment, the observers of a topic are those who have subscribed to it and not been unsubscribed since,
-- sorted by priority, where age decides between equals. To end a subscription for the first time takes it away and
-- nothing else, whatever has been done since it was made. After that, to end it again changes nothing.
theorem Behaviour.audience_registered (behave : Behaviour ξ σ) (files : FileTree) (environment : Environment)
    (memory : σ) (p : Program ξ σ α) (n : Nat) {earlier later : List (Deed ξ × Host ξ σ)} {d : Deed ξ}
    {k : Host ξ σ} (moment : behave.annals n p (.new files environment memory) = earlier ++ (d, k) :: later) :
    (∀ b topic, (k.bus b).live topic = (Deed.registered b topic earlier).mergeSort Subscription.byPriority ∧
      (k.bus b).count topic = (Deed.registered b topic earlier).length) ∧
    ∀ e₁ e₂ b topic priority observer k₀ id,
      earlier = e₁ ++ (.on b topic priority observer, k₀) :: e₂ →
      (k₀.subscribe b topic priority observer).1 = id →
      if e₂.any (·.1.isOff id) then k.unsubscribe id = k
      else (k.unsubscribe id).Lacks k b { serial := id.serial, topic, priority, observer } := by
  have hl := Host.Timeline.moment moment
  constructor
  case left =>
    intro b topic
    have listed := (hl.registers b).live topic
    refine ⟨listed, ?_⟩
    rw [Bus.count, listed, List.length_mergeSort]
    rfl
  case right =>
    intro e₁ e₂ b topic priority observer k₀ id split number
    subst split number
    rw [List.append_assoc, List.cons_append] at moment
    have begun := Host.Timeline.moment moment
    split
    case isTrue ended => exact begun.unsubscribe_eq_self hl ended
    case isFalse lasting => exact begun.lacks hl lasting

namespace Program

def leaver : Behaviour Unit Unit := fun _ e => do
  let _ ← perform (.unsubscribe ⟨⟨0⟩, 1⟩)
  return { payload := e.payload, failure := none }

def thrice : Program Unit Unit Unit := do
  let _ ← perform (.subscribe ⟨0⟩ "call" .high ())
  let _ ← perform (.subscribe ⟨0⟩ "call" .low ())
  let _ ← perform (.subscribe ⟨0⟩ "call" .high ())
  let _ ← perform (.emit ⟨0⟩ "call" "host" (.ofEntries .empty))

end Program

theorem Behaviour.audience_registered_leaver :
    let annals := Program.leaver.annals 2 .thrice (.new .bare {} ())
    ∃ k, annals = annals.take 9 ++ (.off ⟨⟨0⟩, 1⟩, k) :: annals.drop 10 ∧
      ((k.bus ⟨0⟩).live "call").map (·.serial) = [1, 0, 2] ∧
      (k.unsubscribe ⟨⟨0⟩, 1⟩).Lacks k ⟨0⟩
        { serial := 1, topic := "call", priority := .low, observer := .guest () } := by
  intro annals
  have ⟨k, moment, order⟩ : ∃ k, annals = annals.take 9 ++ (.off ⟨⟨0⟩, 1⟩, k) :: annals.drop 10 ∧
      ((k.bus ⟨0⟩).live "call").map (·.serial) = [1, 0, 2] := ⟨_, rfl, rfl⟩
  have ⟨k₀, split, number⟩ : ∃ k₀,
      annals.take 9 = annals.take 3 ++ (.on ⟨0⟩ "call" .low (.guest ()), k₀) :: (annals.take 9).drop 4 ∧
        (k₀.subscribe ⟨0⟩ "call" .low (.guest ())).1 = ⟨⟨0⟩, 1⟩ := ⟨_, rfl, rfl⟩
  have lasting : ¬((annals.take 9).drop 4).any (·.1.isOff ⟨⟨0⟩, 1⟩) := by decide
  have registered := (Behaviour.audience_registered Program.leaver .bare {} () .thrice 2 moment).right
    _ _ _ _ _ _ _ _ split number
  rw [if_neg lasting] at registered
  exact ⟨k, moment, order, registered⟩

end Chatline
