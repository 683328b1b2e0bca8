import Chatline.Proofs.Dispatch.Later

namespace Chatline

namespace Record

def subscription? : Record → Option SubscriptionId
  | subscribed id _ _ | unsubscribed id => some id
  | _ => none

theorem event?_of_not_ofBus {r : Record} (h : r.ofBus = false) : r.event? = none := by
  cases r <;> first | rfl | contradiction

theorem subscription?_of_not_ofBus {r : Record} (h : r.ofBus = false) : r.subscription? = none := by
  cases r <;> first | rfl | contradiction

theorem subscription?_of_event? {r : Record} {about : BusId × Envelope} (h : r.event? = some about) :
    r.subscription? = none := by
  cases r <;> first | rfl | contradiction

theorem event?_of_subscription? {r : Record} {id : SubscriptionId} (h : r.subscription? = some id) :
    r.event? = none := by
  cases r <;> first | rfl | contradiction

end Record

variable {ξ σ : Type}

namespace Host

structure Knows (h : Host ξ σ) (r : Record) : Prop where
  event        : ∀ b e, r.event? = some (b, e) → e.sequence ≤ (h.bus b).sequence
  subscription : ∀ id, r.subscription? = some id → id.serial < (h.bus id.bus).subscribed

-- The buses are in order, and the log agrees with them: those are subscribed who have subscribed and not
-- unsubscribed.
structure Sound (h : Host ξ σ) : Prop where
  orderly : ∀ b, (h.bus b).Orderly
  known   : ∀ r ∈ h.log, h.Knows r
  listed  : ∀ id topic priority, (h.bus id.bus).Lists id.serial topic priority ↔
    .subscribed id topic priority ∈ h.log ∧ .unsubscribed id ∉ h.log

variable {h h' : Host ξ σ}

theorem Knows.of_not_ofBus {r : Record} (hr : r.ofBus = false) : h.Knows r where
  event        := by simp [Record.event?_of_not_ofBus hr]
  subscription := by simp [Record.subscription?_of_not_ofBus hr]

theorem Knows.of_event? {r : Record} {b : BusId} {e : Envelope} (he : r.event? = some (b, e))
    (hb : e.sequence ≤ (h.bus b).sequence) : h.Knows r where
  event        := by simpa [he] using hb
  subscription := by simp [Record.subscription?_of_event? he]

theorem Knows.of_subscription? {r : Record} {id : SubscriptionId} (hr : r.subscription? = some id)
    (hid : id.serial < (h.bus id.bus).subscribed) : h.Knows r where
  event        := by simp [Record.event?_of_subscription? hr]
  subscription := by simpa [hr] using hid

def Counts (h h' : Host ξ σ) : Prop :=
  ∀ b, (h.bus b).sequence ≤ (h'.bus b).sequence ∧ (h.bus b).subscribed ≤ (h'.bus b).subscribed

theorem Knows.mono {r : Record} (hr : h.Knows r) (hc : Counts h h') : h'.Knows r where
  event        := fun b e he => Nat.le_trans (hr.event b e he) (hc b).left
  subscription := fun id hid => Nat.lt_of_lt_of_le (hr.subscription id hid) (hc id.bus).right

namespace Sound

theorem new (files : FileTree) (environment : Environment) (memory : σ) :
    (Host.new (ξ := ξ) files environment memory).Sound where
  orderly := fun _ => .fresh
  known   := fun _ hm => nomatch hm
  listed  := fun _ _ _ => ⟨fun ⟨_, hm, _⟩ => (nomatch hm), fun ⟨hm, _⟩ => (nomatch hm)⟩

theorem known_append {rs : List Record} (hs : h.Sound) (hc : Counts h h') (he : h'.log = h.log ++ rs)
    (hr : ∀ r ∈ rs, h'.Knows r) : ∀ r ∈ h'.log, h'.Knows r := by
  intro r hm
  rw [he] at hm
  cases List.mem_append.mp hm with
  | inl hm => exact (hs.known r hm).mono hc
  | inr hm => exact hr r hm

theorem extend {rs : List Record} (hs : h.Sound) (hc : Counts h h') (he : h'.log = h.log ++ rs)
    (hb : ∀ b, (h'.bus b).subscriptions = (h.bus b).subscriptions)
    (hr : ∀ r ∈ rs, h'.Knows r) (hn : ∀ r ∈ rs, r.subscription? = none) : h'.Sound where
  orderly b := by
    constructor
    case ordered =>
      rw [hb]
      exact (hs.orderly b).ordered
    case counted =>
      rw [hb]
      exact fun s hm => Nat.lt_of_lt_of_le ((hs.orderly b).counted s hm) (hc b).right
  known := hs.known_append hc he hr
  listed id topic priority := by
    have hi := hs.listed id topic priority
    have hm (r : Record) (hid : r.subscription? = some id) : r ∉ rs := fun hm => by simp [hn r hm] at hid
    simpa [Bus.Lists, hb, he, hm (.subscribed id topic priority) rfl, hm (.unsubscribed id) rfl] using hi

theorem aside (hs : h.Sound) (ha : Aside h h') : h'.Sound := by
  have ⟨rs, he, hr⟩ := ha.log
  apply hs.extend (Later.refl.aside ha).counts_le he
  case hb => exact fun b => by rw [bus_congr ha.buses]
  case hr => exact fun r hm => .of_not_ofBus (hr r hm)
  case hn => exact fun r hm => Record.subscription?_of_not_ofBus (hr r hm)

theorem report (hs : h.Sound) {b : BusId} {e : Envelope} {r : Record} (he : r.event? = some (b, e))
    (hb : e.sequence ≤ (h.bus b).sequence) : (h.note r).Sound := by
  have hc : Counts h (h.note r) := fun _ => ⟨Nat.le_refl _, Nat.le_refl _⟩
  have hl : (h.note r).log = h.log ++ [r] := rfl
  apply hs.extend hc hl
  case hb => exact fun _ => rfl
  case hr => simpa using Knows.of_event? (h := h.note r) he hb
  case hn => simpa using Record.subscription?_of_event? he

theorem number (hs : h.Sound) (em : Emission) : (em.numbered h).Sound := by
  have hb := em.bus_numbered h
  have hn : (em.envelope h).sequence ≤ ((em.numbered h).bus em.bus).sequence := by
    rw [hb, if_pos rfl]
    exact Nat.le_refl _
  have hl : (em.numbered h).log = h.log ++ [.emitted em.bus (em.envelope h)] := rfl
  apply hs.extend (Later.refl.number em).counts_le hl
  case hb => exact fun b => by rw [hb]; split <;> simp_all [Bus.number]
  case hr => simpa using Knows.of_event? rfl hn
  case hn => simp [Record.subscription?]

theorem listed_subscribe (hs : h.Sound) (b : BusId) (topic : String) (priority : Priority)
    (observer : Observer ξ) (id : SubscriptionId) (topic' : String) (priority' : Priority) :
    let h' := (h.subscribe b topic priority observer).2
    (h'.bus id.bus).Lists id.serial topic' priority' ↔
      .subscribed id topic' priority' ∈ h'.log ∧ .unsubscribed id ∉ h'.log := by
  have hi := hs.listed id topic' priority'
  have new {r : Record} (hm : r ∈ h.log) (hr : r.subscription? = some id) :
      id ≠ ⟨b, (h.bus b).subscribed⟩ := by
    intro he
    subst he
    exact Nat.lt_irrefl _ ((hs.known r hm).subscription _ hr)
  have he : (h.subscribe b topic priority observer).2.log =
    h.log ++ [.subscribed ⟨b, (h.bus b).subscribed⟩ topic priority] := rfl
  dsimp only
  rw [he, bus_subscribe]
  by_cases hid : id = ⟨b, (h.bus b).subscribed⟩
  case pos =>
    have hs : .subscribed id topic' priority' ∉ h.log := fun hm => new hm rfl hid
    have hu : .unsubscribed id ∉ h.log := fun hm => new hm rfl hid
    simp only [hs, false_and, iff_false] at hi
    subst hid
    simp [Bus.lists_subscribe, hi, hs, hu, eq_comm]
  case neg =>
    split
    case isTrue hib =>
      subst hib
      have hn : (h.bus id.bus).subscribed ≠ id.serial := fun hn => hid (by rw [hn])
      simpa [Bus.lists_subscribe, hn, hid] using hi
    case isFalse => simpa [hid] using hi

theorem subscribe (hs : h.Sound) (b : BusId) (topic : String) (priority : Priority)
    (observer : Observer ξ) : (h.subscribe b topic priority observer).2.Sound := by
  have hb := (bus_subscribe h b · topic priority observer)
  have he : (h.subscribe b topic priority observer).2.log =
    h.log ++ [.subscribed ⟨b, (h.bus b).subscribed⟩ topic priority] := rfl
  constructor
  case orderly =>
    intro b'
    rw [hb]
    split
    case isTrue => exact (hs.orderly b).subscribe topic priority observer
    case isFalse => exact hs.orderly b'
  case known =>
    apply hs.known_append (Later.refl.subscribe b topic priority observer).counts_le he
    intro r hm
    cases List.mem_singleton.mp hm
    apply Knows.of_subscription? rfl
    rw [hb, if_pos rfl]
    exact Nat.lt_succ_self _
  case listed => exact hs.listed_subscribe b topic priority observer

theorem listed_unsubscribe (hs : h.Sound) {id : SubscriptionId} (live : (h.bus id.bus).isLive id.serial)
    (id' : SubscriptionId) (topic : String) (priority : Priority) :
    ((h.unsubscribe id).bus id'.bus).Lists id'.serial topic priority ↔
      .subscribed id' topic priority ∈ (h.unsubscribe id).log ∧ .unsubscribed id' ∉ (h.unsubscribe id).log := by
  have hi := hs.listed id' topic priority
  rw [log_unsubscribe live, bus_unsubscribe_of_live live]
  split
  case isTrue hib =>
    have hid : id' = id ↔ id'.serial = id.serial := by
      cases id
      cases id'
      simp_all
    rw [hib] at hi
    simp only [Bus.lists_unsubscribe, hi, List.mem_append, List.mem_singleton]
    simp [hid, and_assoc]
  case isFalse hib =>
    have hid : id' ≠ id := fun hid => hib (congrArg _ hid)
    simpa [hid] using hi

theorem unsubscribe (hs : h.Sound) (id : SubscriptionId) : (h.unsubscribe id).Sound := by
  by_cases live : (h.bus id.bus).isLive id.serial
  case neg =>
    simp only [Host.unsubscribe]
    rwa [if_neg live]
  case pos =>
    constructor
    case orderly =>
      intro b
      rw [bus_unsubscribe_of_live live]
      split
      case isTrue => exact (hs.orderly id.bus).unsubscribe id.serial
      case isFalse => exact hs.orderly b
    case known =>
      apply hs.known_append (Later.refl.unsubscribe id).counts_le (log_unsubscribe live)
      intro r hm
      cases List.mem_singleton.mp hm
      apply Knows.of_subscription? rfl
      obtain ⟨s, hm, hs'⟩ := Bus.isLive_iff.mp live
      rw [bus_unsubscribe_of_live live, if_pos rfl, ← hs']
      exact (hs.orderly id.bus).counted s hm
    case listed => exact hs.listed_unsubscribe live

theorem later (hs : h.Sound) (hl : Later h h') : h'.Sound := by
  induction hl with
  | refl => exact hs
  | aside _ ha ih => exact ih.aside ha
  | subscribe b topic priority observer _ ih => exact ih.subscribe b topic priority observer
  | unsubscribe id _ ih => exact ih.unsubscribe id
  | number em _ ih => exact ih.number em
  | report _ he _ hb ih => exact ih.report he hb

theorem run {behave : Behaviour ξ σ} (p : Program ξ σ α) (n : Nat) (files : FileTree)
    (environment : Environment) (memory : σ) :
    (p.run (Host.perform behave n) (.new files environment memory)).2.Sound :=
  (new files environment memory).later (Later.refl.run p n).left

end Sound
end Host
end Chatline
