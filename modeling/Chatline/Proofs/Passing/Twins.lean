import Chatline.Proofs.Passing.Session

namespace Chatline

variable {ξ σ : Type}

namespace Host

variable {h h' : Host ξ σ} {id : PluginId} {b : BusId} {xs ys zs xs' ys' : List (Priority × ξ)}
  {behave : Behaviour ξ σ} {n : Nat} {settings : Option Settings}

theorem Sorted.alike_session (hs : h.Sorted) (present : (h.bus b).roles chatTopic = lineup zs)
    (hb : (h.plugin id).bus = b) (between : ∀ x ∈ xs ++ ys, x.1.Between) (same : xs' ++ ys' = xs ++ ys)
    (mild : ∀ x e, (behave x e).Keeps (Act.Mild (· = id)))
    (overlooks : ∀ x e, (behave x e).Overlooks (Alike (besideChat b)))
    (enabled : (perform behave (n + 1) (.enable id settings) (h.enrol b xs)).1 = .ok ()) :
    (perform behave (n + 1) (.enable id settings) (h.enrol b xs')).1 = .ok () ∧
      Alike (fun _ _ => True) (session behave n id settings b h xs ys)
        (session behave n id settings b h xs' ys') := by
  have beside (c : BusId) (topic : String) (ht : topic ≠ chatTopic) : besideChat b c topic := fun _ => ht
  have respects : Respects (Alike (besideChat b)) (behave.guests n) :=
    respects_of_overlooks Alike.kindred mild overlooks (fun _ _ ha => ha) beside n
  have begun : Alike (besideChat b) (h.enrol b xs) (h.enrol b xs') :=
    (Alike.enrol hs b xs).symm.trans (Alike.enrol hs b xs')
  have ⟨k, ready, listening⟩ := ready_of_enabled enabled
  have ⟨k', ready', alike⟩ := ready.related Alike.kindred respects (fun c => beside c _ (by decide)) begun
  have enabled' : (perform behave (n + 1) (.enable id settings) (h.enrol b xs')).1 = .ok () :=
    congrArg Prod.fst ready'.enable
  have listening' : (perform behave (n + 1) (.enable id settings) (h.enrol b xs')).2 = k'.listen id :=
    congrArg Prod.snd ready'.enable
  have sorted : k.Sorted := (hs.enrol b xs).ongoing (ready.ongoing mild rfl)
  have sorted' : k'.Sorted := (hs.enrol b xs').ongoing (ready'.ongoing mild rfl)
  have ended : Alike (besideChat b) (session behave n id settings b h xs ys)
      (session behave n id settings b h xs' ys') := by
    rw [session, session, listening, listening']
    refine (Alike.enrol (sorted.listen id) b ys).symm.trans (.trans ?_ (Alike.enrol (sorted'.listen id) b ys'))
    exact alike.listen sorted sorted' id
  have staffed := hs.staffed_session present hb between mild enabled
  have staffed' := hs.staffed_session present hb (same ▸ between) mild enabled'
  refine ⟨enabled', ended.rest, ended.plugins, ended.sent, fun c topic _ => ?_⟩
  by_cases hc : c = b ∧ topic = chatTopic
  case pos =>
    rw [hc.left, hc.right, staffed.roles, staffed'.roles, same]
  case neg => exact ended.roles c topic fun hb ht => hc ⟨hb, ht⟩

theorem Kindred.chatting {T : BusId → String → Prop} {R : Host ξ σ → Host ξ σ → Prop} {L : PluginId → Prop}
    (hk : Kindred T R) (hR : R h h') {guests : Guests ξ σ} (hg : Respects R guests) (ht : ∀ b topic, T b topic)
    {a : Act ξ} (chatting : a.Chatting L) : Agree R (a.carryOut guests h) (a.carryOut guests h') := by
  cases a
  case publish c player body => exact (hk.publish hR hg (ht c chatTopic) player body).reply
  all_goals exact hk.mild hR hg (fun _ _ _ => ht _ _) (L := L) chatting

-- Hosts that differ in their logs and in the serial numbers that have been given out, but not in those that
-- will be.
structure Twins (h h' : Host ξ σ) : Prop where
  alike      : Alike (fun _ _ => True) h h'
  sorted     : h.Sorted ∧ h'.Sorted
  subscribed : ∀ b, (h.bus b).subscribed = (h'.bus b).subscribed

namespace Twins

theorem memory (ht : Twins h h') (m : σ) : Twins { h with memory := m } { h' with memory := m } where
  alike      := Alike.kindred.memory ht.alike m
  sorted     := ht.sorted
  subscribed := ht.subscribed

theorem subscribe (ht : Twins h h') (b : BusId) (topic : String) (priority : Priority) (observer : Observer ξ) :
    (h.subscribe b topic priority observer).1 = (h'.subscribe b topic priority observer).1 ∧
      Twins (h.subscribe b topic priority observer).2 (h'.subscribe b topic priority observer).2 := by
  constructor
  case left => exact congrArg (SubscriptionId.mk b) (ht.subscribed b)
  case right =>
    have ⟨sorted, sorted'⟩ := ht.sorted
    constructor
    case alike => exact ht.alike.subscribe sorted sorted' b topic priority observer
    case sorted =>
      exact ⟨sorted.subscribe b topic priority observer, sorted'.subscribe b topic priority observer⟩
    case subscribed =>
      intro c
      rw [bus_subscribe, bus_subscribe]
      split
      case isTrue => exact congrArg (· + 1) (ht.subscribed b)
      case isFalse => exact ht.subscribed c

theorem perform (ht : Twins h h') (mild : ∀ x e, (behave x e).Keeps (Act.Mild (· = id)))
    (overlooks : ∀ x e, (behave x e).Overlooks (Alike (besideChat b))) {a : Act ξ}
    (welcoming : a.Welcoming (· = id) b) :
    (Host.perform behave (n + 1) a h).1 = (Host.perform behave (n + 1) a h').1 ∧
      Twins (Host.perform behave (n + 1) a h).2 (Host.perform behave (n + 1) a h').2 := by
  cases welcoming.chatting with
  | inl hq =>
    have respects : Respects (Alike fun _ _ => True) (behave.guests n) :=
      respects_of_overlooks Alike.kindred mild overlooks (fun _ _ ha => ha.mono fun _ _ _ => trivial)
        (fun _ _ _ => trivial) n
    have ⟨he, ha⟩ := Alike.kindred.chatting ht.alike respects (fun _ _ => trivial) hq.left
    have ho : Ongoing (· = id) id h (Host.perform behave (n + 1) a h).2 :=
      Behaviour.ongoing_perform mild (n + 1) hq.left
    have ho' : Ongoing (· = id) id h' (Host.perform behave (n + 1) a h').2 :=
      Behaviour.ongoing_perform mild (n + 1) hq.left
    refine ⟨he, ha, ⟨ht.sorted.left.ongoing ho, ht.sorted.right.ongoing ho'⟩, fun c => ?_⟩
    rw [ho.subscribed, ho'.subscribed, ht.subscribed]
  | inr hq =>
    have ⟨b', topic, priority, x, he, _⟩ := hq
    subst he
    have ⟨he, ht⟩ := ht.subscribe b' topic priority (.guest x)
    exact ⟨congrArg Except.ok he, ht⟩

end Twins
end Host
end Chatline
