import Chatline.Proofs.Dispatch.Annals
import Chatline.Proofs.Dispatch.Delivery

namespace Chatline

variable {ξ σ α ω τ : Type}

namespace Deed

def sent? (b : BusId) : Deed ξ → Option Emission
  | send em => if em.bus = b then some em else none
  | _       => none

def sent (b : BusId) (ds : List (Deed ξ × Host ξ σ)) : List Envelope :=
  ((ds.filterMap (·.1.sent? b)).zipIdx 1).map fun (em, n) =>
    { topic := em.topic, source := em.source, sequence := n }

variable {b : BusId} {d : Deed ξ} {h : Host ξ σ} {ds : List (Deed ξ × Host ξ σ)} {em : Emission}

theorem sent_concat_of_none (hd : d.sent? b = none) : sent b (ds ++ [(d, h)]) = sent b ds := by
  simp [sent, hd]

theorem sent_concat_of_some (hd : d.sent? b = some em) : sent b (ds ++ [(d, h)]) =
    sent b ds ++ [{ topic := em.topic, source := em.source, sequence := (sent b ds).length + 1 }] := by
  simp [sent, hd, List.zipIdx_append, Nat.add_comm]

theorem sequence_sent (b : BusId) (ds : List (Deed ξ × Host ξ σ)) :
    (sent b ds).map (·.sequence) = List.range' 1 (sent b ds).length := by
  simp [sent, Function.comp_def]

end Deed

namespace Bus

def latest (l : List τ) : List τ :=
  l.drop (l.length - capacity)

theorem latest_append_singleton (l : List τ) (x : τ) : latest (latest l ++ [x]) = latest (l ++ [x]) := by
  have within : l.length - capacity ≤ l.length := Nat.sub_le _ _
  have forgotten : l.length - capacity + ((l ++ [x]).length - (l.length - capacity) - capacity) =
      (l ++ [x]).length - capacity := by
    simp only [List.length_append, List.length_singleton]
    omega
  rw [latest, latest, latest, ← List.drop_append_of_le_length within, List.length_drop, List.drop_drop, forgotten]

-- A bus has numbered and remembers what has been sent over it.
structure Counted (bus : Bus ω) (es : List Envelope) : Prop where
  sequence : bus.sequence = es.length
  history  : bus.history = latest es

namespace Counted

variable {bus bus' : Bus ω} {es : List Envelope}

theorem fresh : (fresh : Bus ω).Counted [] where
  sequence := rfl
  history  := rfl

theorem number (hc : bus.Counted es) (topic source : String) :
    (bus.number topic source).2.Counted (es ++ [{ topic, source, sequence := es.length + 1 }]) where
  sequence := by simp [Bus.number, hc.sequence]
  history  := by
    rw [← latest_append_singleton, ← hc.history, ← hc.sequence]
    simp only [Bus.number, latest]

theorem same (hc : bus.Counted es) (sequence : bus'.sequence = bus.sequence) (history : bus'.history = bus.history) :
    bus'.Counted es where
  sequence := sequence.trans hc.sequence
  history  := history.trans hc.history

theorem recent (hc : bus.Counted es) (numbered : es.map (·.sequence) = List.range' 1 es.length) :
    bus.recent none = es.drop (es.length - min es.length 1000) ∧
      (bus.recent none).map (·.sequence) =
        List.range' (es.length - min es.length 1000 + 1) (min es.length 1000) := by
  have room : es.length - capacity = es.length - min es.length 1000 := by
    simp only [capacity]
    omega
  have kept : es.length - (es.length - min es.length 1000) = min es.length 1000 := by omega
  have remembered : bus.recent none = es.drop (es.length - min es.length 1000) := by
    rw [← room]
    exact hc.history
  refine ⟨remembered, ?_⟩
  rw [remembered, List.map_drop, numbered, List.drop_range', kept, Nat.mul_one, Nat.add_comm 1]

end Counted
end Bus

namespace Host

variable {h : Host ξ σ} {ds : List (Deed ξ × Host ξ σ)}

theorem counted_carryOut {b : BusId} (hc : (h.bus b).Counted (Deed.sent b ds)) (d : Deed ξ) :
    ((d.carryOut h).bus b).Counted (Deed.sent b (ds ++ [(d, h)])) := by
  cases d with
  | look    =>
    rw [Deed.sent_concat_of_none rfl]
    exact hc
  | send em =>
    rw [Deed.carryOut, em.bus_numbered]
    by_cases hb : b = em.bus
    case pos =>
      have sent : (Deed.send em : Deed ξ).sent? b = some em := if_pos hb.symm
      rw [if_pos hb, ← hb, Deed.sent_concat_of_some sent]
      exact hc.number em.topic em.source
    case neg =>
      have none : (Deed.send em : Deed ξ).sent? b = none := if_neg (Ne.symm hb)
      rw [if_neg hb, Deed.sent_concat_of_none none]
      exact hc
  | on b' topic priority observer =>
    rw [Deed.sent_concat_of_none rfl, Deed.carryOut, bus_subscribe]
    split
    case isTrue he =>
      subst he
      exact hc.same rfl rfl
    case isFalse => exact hc
  | off id =>
    rw [Deed.sent_concat_of_none rfl, Deed.carryOut, bus_unsubscribe]
    split
    case isTrue he =>
      rw [← he.right]
      exact hc.same rfl rfl
    case isFalse => exact hc

theorem Timeline.counted {files : FileTree} {environment : Environment} {memory : σ}
    (hl : Timeline (.new files environment memory) ds h) (b : BusId) : (h.bus b).Counted (Deed.sent b ds) := by
  induction hl with
  | refl => exact .fresh
  | beside _ same ih => rwa [bus_congr same]
  | deed d _ ih => exact counted_carryOut ih d

end Host

-- What becomes of an event that is sent next after some number of others: it is returned with the next number,
-- whatever its observers do meanwhile, and all that they send over its bus gets higher numbers.
structure Emission.Numbered (behave : Behaviour ξ σ) (m : Nat) (em : Emission) (h : Host ξ σ) (n : Nat) :
    Prop where
  returned : ∃ payload k, Host.perform behave (m + 1) (.emit em.bus em.topic em.source em.payload) h =
    (.ok ({ topic := em.topic, source := em.source, sequence := n + 1 }, payload), k)
  nested   : ∀ t ∈ em.turns (behave.guests m) h, ∀ x, t.subscription.observer = .guest x →
    ∀ a₁ h₁, (a₁, h₁) ∈ (behave x t.event).acts (Host.perform behave m) t.before →
    ∀ l a₂ h₂, Behaviour.Course behave m a₁ h₁ (l + 1) a₂ h₂ →
    ∀ em' k, a₂.opening h₂ = (some em', k) → em'.bus = em.bus → n + 1 < (em'.envelope k).sequence

namespace Emission

variable {behave : Behaviour ξ σ} {m n : Nat} {em : Emission} {h : Host ξ σ}

theorem sequence_le_before {t : Turn ξ σ} (ht : t ∈ em.turns (behave.guests m) h) :
    (em.envelope h).sequence ≤ (t.before.bus em.bus).sequence := by
  have numbered : (em.envelope h).sequence ≤ ((em.numbered h).bus em.bus).sequence := by
    rw [em.bus_numbered, if_pos rfl]
    exact Nat.le_refl _
  have later : ∀ t ∈ em.turns (behave.guests m) h, Host.Later t.before t.after :=
    fun t ht => Host.Later.turn (a := .emit em.bus em.topic em.source em.payload) ht
  apply (Host.deliver_preserves (P := fun h' => (em.envelope h).sequence ≤ (h'.bus em.bus).sequence)
    (fun _ _ hn => hn) (fun _ _ hn => hn) ?turn numbered).right t ht
  case turn => exact fun t ht hn => Nat.le_trans hn ((later t ht).sequence_le em.bus)

theorem numbered_of_sequence (hn : (h.bus em.bus).sequence = n) : em.Numbered behave m h n where
  returned := by
    subst hn
    exact ⟨_, _, rfl⟩
  nested   := by
    intro t ht x hx a₁ h₁ act l a₂ h₂ course em' k sent same
    -- The event has its number before the turn begins, and numbers only grow while the guest acts.
    have sending : Host.Later t.before k := by
      have opened := (((Host.Later.refl.run (behave x t.event) m).right a₁ h₁ act).course course).opening a₂
      rwa [sent] at opened
    have given : n + 1 ≤ (t.before.bus em.bus).sequence := hn ▸ sequence_le_before ht
    have next : (em'.envelope k).sequence = (k.bus em.bus).sequence + 1 := same ▸ rfl
    have counted := sending.sequence_le em.bus
    omega

end Emission

-- At every moment of a run, whatever the observers do, as deep as they nest it and whether they fail or not, the
-- number of a bus is how many events have been sent over it so far, and the last thousand of them are remembered
-- in the order of their numbers. Whatever event comes to be sent gets the next number, is returned with it, and
-- comes before the events that its observers send.
theorem Behaviour.events_numbered (behave : Behaviour ξ σ) (files : FileTree) (environment : Environment)
    (memory : σ) (p : Program ξ σ α) (n : Nat) :
    let annals := behave.annals n p (.new files environment memory)
    (∀ earlier d k later b, annals = earlier ++ (d, k) :: later →
      let es := Deed.sent b earlier
      (k.bus b).sequence = es.length ∧
        (k.bus b).recent none = es.drop (es.length - min es.length 1000) ∧
        ((k.bus b).recent none).map (·.sequence) =
          List.range' (es.length - min es.length 1000 + 1) (min es.length 1000)) ∧
    ∀ a₀ h₀ m a h em k, (a₀, h₀) ∈ p.acts (Host.perform behave n) (.new files environment memory) →
      Course behave n a₀ h₀ (m + 1) a h → a.opening h = (some em, k) →
      ∃ earlier later, annals = earlier ++ (.send em, k) :: later ∧
        em.Numbered behave m k (Deed.sent em.bus earlier).length := by
  intro annals
  constructor
  case left =>
    intro earlier d k later b moment es
    have hc := (Host.Timeline.moment moment).counted b
    exact ⟨hc.sequence, hc.recent (Deed.sequence_sent b earlier)⟩
  case right =>
    intro a₀ h₀ m a h em k act course sent
    have told : (.send em, k) ∈ annals := by
      apply mem_annals act course
      have begun : a.begun h = [(.send em, k)] := by
        rw [Act.begun_of_not_enlists (Act.not_enlists_of_announced sent), sent]
      simp [deeds, begun]
    obtain ⟨earlier, later, moment⟩ := List.append_of_mem told
    have hc := (Host.Timeline.moment moment).counted em.bus
    exact ⟨earlier, later, moment, Emission.numbered_of_sequence hc.sequence⟩

theorem Behaviour.events_numbered_echo :
    let em : Emission := { bus := ⟨0⟩, topic := "call", source := "host", payload := .ofEntries .empty }
    let annals := Program.echo.annals 2 .call (.new .bare {} ())
    (∃ k, annals = annals.take 9 ++ (.look, k) :: annals.drop 10 ∧ (k.bus ⟨0⟩).sequence = 2 ∧
      (k.bus ⟨0⟩).recent none = [⟨"call", "host", 1⟩, ⟨"echo", "guest", 2⟩]) ∧
    ∃ earlier h later, annals = earlier ++ (.send em, h) :: later ∧
      em.Numbered Program.echo 1 h (Deed.sent ⟨0⟩ earlier).length := by
  intro em annals
  have numbered := Behaviour.events_numbered Program.echo .bare {} () .call 2
  constructor
  case left =>
    have counted := numbered.left (annals.take 9) .look _ (annals.drop 10) ⟨0⟩ rfl
    exact ⟨_, rfl, counted.left, counted.right.left⟩
  case right =>
    have ⟨earlier, later, sent⟩ := numbered.right _ _ 1 _ _ em _ (.tail _ (.tail _ (.head _))) .refl rfl
    exact ⟨earlier, _, later, sent⟩

end Chatline
