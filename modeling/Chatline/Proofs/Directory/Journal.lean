import Chatline.Proofs.Directory.Active

namespace Chatline

variable {ξ σ α : Type}

namespace Payload

def provider? (p : Payload) : Option ProviderId :=
  match p.entries.get? providerKey with
  | some (.provider q) => some q
  | _                  => none

theorem provider?_ofProvider (k : Kind) (p : ProviderId) : (ofProvider k p).provider? = some p := by
  simp [provider?, ofProvider, ofEntries, Table.get?_set, kindKey, providerKey]

end Payload

def Event.replay (books : Kind → List ProviderId) (e : Event) (k : Kind) : List ProviderId :=
  match e.payload.provider? with
  | none   => books k
  | some p =>
    if e.payload.kind? ≠ some k then books k
    else if e.envelope.topic = Directory.registered then books k ++ [p]
    else if e.envelope.topic = Directory.unregistered then (books k).filter (· ≠ p)
    else books k

def Emission.event (em : Emission) (h : Host ξ σ) : Event where
  envelope := em.envelope h
  payload  := em.payload

def Act.announced? (d : DirectoryId) (a : Act ξ) (h : Host ξ σ) : Option Event :=
  if (a.call? d).isSome then (a.opening h).1.map (·.event (a.opening h).2) else none

def Juncture.announced? (d : DirectoryId) (m : Juncture ξ σ) : Option Event :=
  m.act.bind (·.announced? d m.host)

namespace Call

variable (h : Host ξ σ) (d : DirectoryId) (c : Call)

def provider : Call → ProviderId
  | register _ p | unregister _ p => p

def act : Call → Act ξ
  | register k p   => .register d k p
  | unregister k p => .unregister d k p

def topic : Call → String
  | register _ _   => Directory.registered
  | unregister _ _ => Directory.unregistered

def record : Call → Record
  | register k p   => .registered d k p
  | unregister k p => .unregistered d k p

-- What has been taken back cannot be taken back again. All other calls are effective.
def effective (x : Directory) : Call → Bool
  | register _ _   => true
  | unregister k p => x.holds k p

def emission : Emission where
  bus     := (h.directory d).bus
  topic   := c.topic
  source  := Directory.source
  payload := .ofProvider c.kind c.provider

def announcement : Event :=
  (c.emission h d).event h

def changed : Host ξ σ :=
  (h.setDirectory d (c.carryOut (h.directory d))).note (c.record d)

variable {h d c} {a : Act ξ} {k : Kind} {x : Directory}

theorem eq_act (hc : a.call? d = some c) : a = c.act d := by
  cases a
  case register d' k p =>
    have ⟨hd, he⟩ := Option.ite_none_right_eq_some.mp hc
    cases hd
    cases he
    rfl
  case unregister d' k p =>
    have ⟨hd, he⟩ := Option.ite_none_right_eq_some.mp hc
    cases hd
    cases he
    rfl
  all_goals cases hc

theorem directory_changed : (c.changed h d).directory d = c.carryOut (h.directory d) :=
  (Host.directory_setDirectory h d d _).trans (if_pos rfl)

theorem opening_act : (c.act d).opening h =
    if c.effective (h.directory d) then (some (c.emission h d), c.changed h d) else (none, h) := by
  have same : ((c.changed h d).directory d).bus = (h.directory d).bus := by rw [directory_changed, bus_carryOut]
  cases c with
  | register k p   =>
    have opened : ((register k p).act d).opening h = (some { (register k p).emission h d with
        bus := (((register k p).changed h d).directory d).bus }, (register k p).changed h d) := rfl
    rw [opened, same]
    rfl
  | unregister k p =>
    have opened : ((unregister k p).act d).opening h = if (h.directory d).holds k p then
        (some { (unregister k p).emission h d with
          bus := (((unregister k p).changed h d).directory d).bus }, (unregister k p).changed h d)
      else (none, h) := rfl
    rw [opened, same]
    rfl

theorem announced?_eq (hc : a.call? d = some c) : a.announced? d h =
    if c.effective (h.directory d) then some (c.announcement h d) else none := by
  rw [Act.announced?, hc, eq_act hc, opening_act]
  cases c.effective (h.directory d) <;> rfl

theorem announced?_of_not_call (hc : a.call? d = none) : a.announced? d h = none := by
  rw [Act.announced?, hc]
  rfl

theorem effective_iff : c.effective x = true ↔ (c.carryOut x).providers ≠ x.providers := by
  cases c with
  | register k p =>
    refine iff_of_true rfl fun same => ?_
    have longer := congrArg List.length (congrFun same k)
    simp [carryOut, Directory.providers_register] at longer
  | unregister k p =>
    rw [effective]
    constructor
    case mp =>
      intro held same
      have gone := congrFun same k
      rw [carryOut, Directory.providers_unregister, if_pos rfl, List.filter_eq_self] at gone
      simpa using gone p (holds_iff.mp held)
    case mpr =>
      intro different
      cases held : x.holds k p with
      | true  => rfl
      | false => exact absurd (by rw [carryOut, unregister_of_not_holds held]) different

theorem replay_announcement (h : Host ξ σ) (d : DirectoryId) (c : Call) :
    (c.announcement h d).replay (h.directory d).providers = (c.carryOut (h.directory d)).providers := by
  funext k
  have provider : (c.announcement h d).payload.provider? = some c.provider := Payload.provider?_ofProvider _ _
  have kind : (c.announcement h d).payload.kind? = some c.kind := Payload.kind?_ofProvider _ _
  have topic : (c.announcement h d).envelope.topic = c.topic := rfl
  have other : Directory.unregistered ≠ Directory.registered := by decide
  simp only [Event.replay, provider, kind, topic]
  by_cases hk : c.kind = k
  case neg => rw [if_pos (by simpa using hk), providers_carryOut_of_ne hk]
  case pos =>
    subst hk
    rw [if_neg (by simp)]
    cases c with
    | register k p   =>
      have added := Directory.providers_register (h.directory d) k k p
      rw [if_pos rfl] at added
      exact added.symm
    | unregister k p =>
      have removed := Directory.providers_unregister (h.directory d) k k p
      rw [if_pos rfl] at removed
      rw [Call.topic, if_neg other, if_pos rfl]
      exact removed.symm

end Call

namespace Host

variable {h h₀ : Host ξ σ} {d : DirectoryId} {ms : List (Juncture ξ σ)} {es : List Event}

-- What the books of someone are worth who has written down some events of a directory since some moment: they agree
-- with the directory, and the events have been sent over its bus, in this order.
structure Journalled (h₀ : Host ξ σ) (d : DirectoryId) (es : List Event) (h : Host ξ σ) : Prop where
  providers : (h.directory d).providers = es.foldl Event.replay (h₀.directory d).providers
  bus       : (h.directory d).bus = (h₀.directory d).bus
  ordered   : (es.map (·.envelope.sequence)).Pairwise (· < ·)
  counted   : ∀ e ∈ es, e.envelope.sequence ≤ (h.bus (h₀.directory d).bus).sequence
  logged    : (es.map fun e => Record.emitted (h₀.directory d).bus e.envelope).Sublist h.log

namespace Journalled

theorem refl : Journalled h d [] h where
  providers := rfl
  bus       := rfl
  ordered   := .nil
  counted   := fun _ he => nomatch he
  logged    := List.nil_sublist _

theorem beside {h' : Host ξ σ} (hj : Journalled h₀ d es h) (ho : Onward h h') (same : h'.directory d = h.directory d) :
    Journalled h₀ d es h' where
  providers := same ▸ hj.providers
  bus       := same ▸ hj.bus
  ordered   := hj.ordered
  counted   := fun e he => Nat.le_trans (hj.counted e he) (ho.sequence _)
  logged    := hj.logged.trans ho.log.sublist

theorem announced (hj : Journalled h₀ d es h) (c : Call) :
    Journalled h₀ d (es ++ [c.announcement h d]) ((c.emission h d).numbered (c.changed h d)) := by
  have stored : ((c.emission h d).numbered (c.changed h d)).directory d = c.carryOut (h.directory d) :=
    c.directory_changed
  have given : (((c.emission h d).numbered (c.changed h d)).bus (h.directory d).bus).sequence =
      (h.bus (h.directory d).bus).sequence + 1 := by
    rw [(c.emission h d).bus_numbered]
    exact congrArg Bus.sequence (if_pos rfl)
  -- The number of the bus bounds those of the events so far, so the next one is greater.
  have newer : ∀ e ∈ es, e.envelope.sequence < (c.announcement h d).envelope.sequence := by
    have counted := hj.counted
    rw [← hj.bus] at counted
    exact fun e he => Nat.lt_succ_of_le (counted e he)
  constructor
  case providers =>
    rw [stored, List.foldl_append, ← hj.providers]
    exact (c.replay_announcement h d).symm
  case bus => rw [stored, Call.bus_carryOut, hj.bus]
  case ordered =>
    rw [List.map_append, List.pairwise_append]
    refine ⟨hj.ordered, List.pairwise_singleton _ _, fun s hs s' hs' => ?_⟩
    have ⟨e, he, hs⟩ := List.mem_map.mp hs
    rw [← hs, List.mem_singleton.mp hs']
    exact newer e he
  case counted =>
    rw [← hj.bus, given]
    intro e he
    cases List.mem_append.mp he with
    | inl he => exact Nat.le_of_lt (newer e he)
    | inr he => exact Nat.le_of_eq (congrArg (·.envelope.sequence) (List.mem_singleton.mp he))
  case logged =>
    rw [← hj.bus, List.map_append]
    have before : (es.map fun e => Record.emitted (h.directory d).bus e.envelope).Sublist (c.changed h d).log :=
      hj.bus ▸ hj.logged.trans (List.sublist_append_left _ _)
    exact before.append (List.Sublist.refl _)

end Journalled

theorem Trail.journalled (ht : Trail h₀ ms h) (hd : d.number < h₀.fresh) :
    Journalled h₀ d (ms.filterMap (·.announced? d)) h := by
  induction ht with
  | refl           => exact .refl
  | beside _ hb ih => exact ih.beside hb.toOnward (hb.directory d)
  | look _ ih      => simpa [Juncture.announced?] using ih
  | @begin ms h a ht ih =>
    have still : d.number < h.fresh := Nat.lt_of_lt_of_le hd ht.onward.fresh
    rw [List.filterMap_append]
    cases hc : a.call? d with
    | none =>
      have same : (a.started h).directory d = h.directory d := by rw [directory_started still, hc, Option.elim_none]
      have nothing : [(⟨some a, h⟩ : Juncture ξ σ)].filterMap (·.announced? d) = [] := by
        simp [Juncture.announced?, Call.announced?_of_not_call hc]
      rw [nothing, List.append_nil]
      exact ih.beside (onward_started a) same
    | some c =>
      have announced : [(⟨some a, h⟩ : Juncture ξ σ)].filterMap (·.announced? d) =
          (if c.effective (h.directory d) then some (c.announcement h d) else none).toList := by
        rw [← Call.announced?_eq hc]
        rfl
      rw [announced, Act.started, Call.eq_act hc, Call.opening_act]
      cases c.effective (h.directory d) with
      | true  => exact ih.announced c
      | false => simpa using ih

end Host

namespace Call

variable {behave : Behaviour ξ σ} {h : Host ξ σ} {d : DirectoryId} {c : Call}

theorem perform_of_not_effective (he : c.effective (h.directory d) = false) (depth : Nat) :
    (Host.perform behave (depth + 1) (c.act d) h).2 = h := by
  rw [Behaviour.perform_succ, Act.carryOut_snd, Act.outcome, opening_act, he]
  rfl

theorem perform_of_effective (he : c.effective (h.directory d) = true) (depth : Nat) :
    (Host.perform behave (depth + 1) (c.act d) h).2 =
      ((c.emission h d).carryOut (behave.guests depth) (c.changed h d)).2 := by
  rw [Behaviour.perform_succ, Act.carryOut_snd, Act.outcome, opening_act, he]
  cases c <;> rfl

theorem announced_once (hs : h.Sound) (he : c.effective (h.directory d) = true) (depth : Nat) :
    h.log.count (.emitted (h.directory d).bus (c.announcement h d).envelope) = 0 ∧
      (Host.perform behave (depth + 1) (c.act d) h).2.log.count
        (.emitted (h.directory d).bus (c.announcement h d).envelope) = 1 := by
  have opened : (c.act d).opening h = (some (c.emission h d), c.changed h d) := by rw [opening_act, he]; rfl
  have later : Host.Later h (c.changed h d) := by
    have begun := Host.Later.refl.opening (c.act d) (h := h)
    rwa [opened] at begun
  have sound : (c.changed h d).Sound := hs.later later
  have turn : ∀ t ∈ (c.emission h d).turns (behave.guests depth) (c.changed h d), Host.Later t.before t.after := by
    have notified : (c.act d).turns (behave.guests depth) h =
        (c.emission h d).turns (behave.guests depth) (c.changed h d) := by rw [Act.turns, opened]
    rw [← notified]
    exact fun t ht => .turn ht
  have before : (c.changed h d).log.count (.emitted (h.directory d).bus (c.announcement h d).envelope) = 0 :=
    Emission.count_unheard sound (c.emission h d)
  constructor
  case left => exact Nat.le_zero.mp (before ▸ (List.sublist_append_left h.log _).count_le _)
  case right =>
    rw [perform_of_effective he]
    exact (Emission.count_emitted turn).trans (congrArg (· + 1) before)

end Call

-- The announcements of a directory are a faithful journal of it, whoever calls upon it, be it from within other
-- announcements. Replayed in the order of their numbers, those that have been made since it was empty give the
-- providers of every kind at every moment, and they are among the events that have been sent by then. Every call that
-- makes a difference to the directory is announced, and has been so once when it is over. All other calls do nothing.
theorem Behaviour.changes_announced (behave : Behaviour ξ σ) (files : FileTree) (environment : Environment)
    (memory : σ) (p : Program ξ σ α) (n : Nat) (d : DirectoryId) :
    let junctures := behave.junctures n p (.new files environment memory)
    (∀ earlier m₀ between m later, junctures = earlier ++ m₀ :: (between ++ m :: later) → m₀.host.Vacant d →
      let journal := (m₀ :: between).filterMap (·.announced? d)
      (m.host.directory d).providers = journal.foldl Event.replay (fun _ => []) ∧
        (journal.map (·.envelope.sequence)).Pairwise (· < ·) ∧
        (journal.map fun e => Record.emitted (m.host.directory d).bus e.envelope).Sublist m.host.log) ∧
    ∀ a h c depth, ⟨some a, h⟩ ∈ junctures → a.call? d = some c →
      let after := (Host.perform behave (depth + 1) a h).2
      ((c.carryOut (h.directory d)).providers = (h.directory d).providers →
        a.announced? d h = none ∧ after = h) ∧
      ((c.carryOut (h.directory d)).providers ≠ (h.directory d).providers →
        ∃ e, a.announced? d h = some e ∧
          e.replay (h.directory d).providers = (c.carryOut (h.directory d)).providers ∧
          h.log.count (.emitted (h.directory d).bus e.envelope) = 0 ∧
          after.log.count (.emitted (h.directory d).bus e.envelope) = 1) := by
  intro junctures
  constructor
  case left =>
    intro earlier m₀ between m later split vacant journal
    have trail := (Host.Trail.junctures p n _).between split
    have hj := trail.journalled vacant.opened
    have empty : (m₀.host.directory d).providers = fun _ => [] := by
      funext k
      rw [Directory.providers, vacant.empty]
      rfl
    rw [hj.bus, hj.providers, empty]
    exact ⟨rfl, hj.ordered, hj.logged⟩
  case right =>
    intro a h c depth hm hc after
    have sound : h.Sound := (Host.Sound.new files environment memory).later (Host.Trail.later_of_mem hm)
    have announced := Call.announced?_eq (h := h) hc
    cases Call.eq_act hc
    constructor
    case left =>
      intro same
      have ineffective : c.effective (h.directory d) = false :=
        Bool.eq_false_iff.mpr fun he => Call.effective_iff.mp he same
      rw [ineffective] at announced
      exact ⟨announced, Call.perform_of_not_effective ineffective depth⟩
    case right =>
      intro different
      have effective : c.effective (h.directory d) = true := Call.effective_iff.mpr different
      rw [effective] at announced
      exact ⟨_, announced, c.replay_announcement h d, Call.announced_once sound effective depth⟩

theorem Behaviour.changes_announced_usurped :
    let junctures := Behaviour.usurper.junctures 2 .registerThree (.new .bare {} ())
    (∃ m₀ m, junctures = junctures.take 2 ++ m₀ :: ((junctures.drop 3).take 12 ++ m :: []) ∧ m₀.host.Vacant ⟨0⟩ ∧
      (m.host.directory ⟨0⟩).providers =
        ((m₀ :: (junctures.drop 3).take 12).filterMap (·.announced? ⟨0⟩)).foldl Event.replay fun _ => []) ∧
    ∃ h e, ⟨some (.unregister ⟨0⟩ .chatMeta ⟨2⟩), h⟩ ∈ junctures ∧
      (Act.unregister ⟨0⟩ .chatMeta ⟨2⟩).announced? ⟨0⟩ h = some e ∧
      (Host.perform Behaviour.usurper 1 (.unregister ⟨0⟩ .chatMeta ⟨2⟩) h).2.log.count
        (.emitted ⟨0⟩ e.envelope) = 1 := by
  intro junctures
  have split : junctures = junctures.take 2 ++ _ :: ((junctures.drop 3).take 12 ++ _ :: []) := rfl
  have ⟨replayed, announced⟩ := Behaviour.changes_announced Behaviour.usurper .bare {} () .registerThree 2 ⟨0⟩
  constructor
  case left =>
    have books := (replayed _ _ _ _ _ split ⟨Nat.zero_lt_one, rfl⟩).left
    exact ⟨_, _, split, ⟨Nat.zero_lt_one, rfl⟩, books⟩
  case right =>
    have called := announced (.unregister ⟨0⟩ .chatMeta ⟨2⟩) _ (.unregister .chatMeta ⟨2⟩) 0
      (List.mem_iff_getElem?.mpr ⟨13, rfl⟩) rfl
    have ⟨e, told, _, _, once⟩ := called.right fun same => absurd (congrFun same .chatMeta) (by decide)
    exact ⟨_, e, List.mem_iff_getElem?.mpr ⟨13, rfl⟩, told, once⟩

end Chatline
