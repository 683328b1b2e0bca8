import Chatline.Proofs.Dispatch.Ledger

namespace Chatline

def Record.isAbout (b : BusId) (e : Envelope) (r : Record) : Bool :=
  r.event? = some (b, e)

theorem Record.text_handlerFailed (b : BusId) (e : Envelope) (reason : String) :
    (handlerFailed b e reason).text = "Handler error for '" ++ e.topic ++ "': " ++ reason := by
  apply String.toList_injective
  simp [text, template, arguments, fillMarks]

variable {ξ σ α : Type}

namespace Host

variable {guests : Guests ξ σ} {h₀ h : Host ξ σ}

def Logs (h₀ h h' : Host ξ σ) : Prop :=
  ∃ rs, h'.log = h.log ++ rs ∧ ∀ r ∈ rs, ∀ b e, r.event? = some (b, e) → (h₀.bus b).sequence < e.sequence

theorem Logs.append {h₁ h₂ : Host ξ σ} {rs : List Record} (hl : Logs h₀ h h₁) (he : h₂.log = h₁.log ++ rs)
    (hr : ∀ r ∈ rs, ∀ b e, r.event? = some (b, e) → (h₀.bus b).sequence < e.sequence) :
    Logs h₀ h h₂ := by
  have ⟨rs', he', hr'⟩ := hl
  refine ⟨rs' ++ rs, by rw [he, he', List.append_assoc], fun r hm => ?_⟩
  exact (List.mem_append.mp hm).elim (hr' r) (hr r)

theorem Later.logs (hl : Later h₀ h) : Logs h₀ h₀ h := by
  induction hl with
  | refl => exact ⟨[], by simp⟩
  | aside _ ha ih =>
    have ⟨rs, he, hr⟩ := ha.log
    exact ih.append he fun r hm => by simp [Record.event?_of_not_ofBus (hr r hm)]
  | subscribe b topic priority observer _ ih => exact ih.append rfl (by simp [Record.event?])
  | unsubscribe id _ ih =>
    simp only [Host.unsubscribe]
    split
    case isTrue => exact ih.append rfl (by simp [Record.event?])
    case isFalse => exact ih
  | number em hl ih =>
    have hb : (h₀.bus em.bus).sequence < _ := Nat.lt_succ_of_le (hl.sequence_le em.bus)
    exact ih.append rfl (by simpa [Record.event?, Emission.envelope, Bus.number] using hb)
  | report _ he hb _ ih => exact ih.append rfl (by simpa [he] using hb)

theorem Later.filter_isAbout {b : BusId} {e : Envelope} (hl : Later h₀ h)
    (he : e.sequence ≤ (h₀.bus b).sequence) :
    h.log.filter (·.isAbout b e) = h₀.log.filter (·.isAbout b e) := by
  have ⟨rs, hrs, hr⟩ := hl.logs
  have hn : rs.filter (·.isAbout b e) = [] := by
    rw [List.filter_eq_nil_iff]
    intro r hm ha
    exact Nat.not_lt.mpr he (hr r hm b e (by simpa [Record.isAbout] using ha))
  rw [hrs, List.filter_append, hn, List.append_nil]

theorem filter_isAbout_note {b : BusId} {e : Envelope} {r : Record} (he : r.event? = some (b, e)) :
    (h.note r).log.filter (·.isAbout b e) = h.log.filter (·.isAbout b e) ++ [r] := by
  simp [note, Record.isAbout, he]

theorem filter_isAbout_noteFailure {b : BusId} {e : Envelope} (failure : Option Failure) :
    (h.noteFailure b e failure).log.filter (·.isAbout b e) =
      h.log.filter (·.isAbout b e) ++ (failure.map fun f => .handlerFailed b e f.message).toList := by
  cases failure with
  | none   => simp [noteFailure]
  | some f => exact filter_isAbout_note rfl

theorem filter_isAbout_deliver {b : BusId} {e : Envelope} {ss : List (Subscription (Observer ξ))}
    {p : Payload} (hn : e.sequence ≤ (h.bus b).sequence)
    (turn : ∀ t ∈ turns guests b e ss p h, Later t.before t.after) :
    (deliver guests b e ss p h).2.log.filter (·.isAbout b e) =
      h.log.filter (·.isAbout b e) ++ (turns guests b e ss p h).flatMap (·.records b) := by
  induction ss generalizing p h with
  | nil => simp [deliver, turns]
  | cons s ss ih =>
    have ht := turn _ (.head _)
    have hb : e.sequence ≤ ((h.turn guests b e s p).before.bus b).sequence := hn
    have ha := Nat.le_trans hb (ht.sequence_le b)
    have before : (h.turn guests b e s p).before.log.filter (·.isAbout b e) =
        h.log.filter (·.isAbout b e) ++ [.delivered b e s.serial] := filter_isAbout_note rfl
    rw [deliver_cons, ih ?noted fun t hm => turn t (.tail _ hm)]
    case noted => unfold noteFailure; split <;> exact ha
    rw [filter_isAbout_noteFailure, ht.filter_isAbout hb, before, turns, List.flatMap_cons]
    simp [Turn.records, Turn.failures, Host.turn]

theorem deliver_fst {b : BusId} {e : Envelope} {ss : List (Subscription (Observer ξ))} {p : Payload} :
    (deliver guests b e ss p h).1 =
      ((turns guests b e ss p h).getLast?.map (·.reaction.payload)).getD p := by
  induction ss generalizing p h with
  | nil => rfl
  | cons s ss ih =>
    rw [deliver_cons, ih, turns, List.getLast?_cons]
    simp

end Host

namespace Emission

-- What there is to the delivery of an event. Those are notified who are subscribed to its topic at the
-- moment at which it is given its number, whatever becomes of their subscriptions meanwhile. They are
-- notified in order, so none of them twice, and whatever they do to the host and the payload is there for
-- the next one, and in the end for the sender. Their failures end up in the log, each of them once, and
-- nowhere else.
structure Fulfilled (em : Emission) (guests : Guests ξ σ) (h : Host ξ σ) : Prop where
  audience   : (em.turns guests h).map (·.subscription) = (h.bus em.bus).live em.topic
  ordered    : ((em.turns guests h).map (·.subscription)).Pairwise Subscription.Before
  subscribed : ∀ serial priority,
    (∃ t ∈ em.turns guests h, t.subscription.serial = serial ∧ t.subscription.priority = priority) ↔
      .subscribed ⟨em.bus, serial⟩ em.topic priority ∈ h.log ∧ .unsubscribed ⟨em.bus, serial⟩ ∉ h.log
  inTurn     : Turn.InTurn guests em.bus (em.envelope h) (em.turns guests h) em.payload (em.numbered h)
    (em.carryOut guests h).1.2 (em.carryOut guests h).2
  recorded   : (em.carryOut guests h).2.log.filter (·.isAbout em.bus (em.envelope h)) =
    .emitted em.bus (em.envelope h) :: (em.turns guests h).flatMap (·.records em.bus)
  errors     : ((em.carryOut guests h).2.log.filter fun r =>
      r.level = .error && r.isAbout em.bus (em.envelope h)).map (·.text) =
    (em.turns guests h).filterMap fun t => t.reaction.failure.map fun f =>
      "Handler error for '" ++ em.topic ++ "': " ++ f.message
  returned   : (em.carryOut guests h).1 =
    (em.envelope h, ((em.turns guests h).getLast?.map (·.reaction.payload)).getD em.payload)

variable {em : Emission} {guests : Guests ξ σ} {h : Host ξ σ}

theorem errors_records {b : BusId} {topic : String} {ts : List (Turn ξ σ)}
    (ht : ∀ t ∈ ts, t.event.envelope.topic = topic) :
    ((ts.flatMap (·.records b)).filter (·.level = .error)).map (·.text) =
      ts.filterMap fun t => t.reaction.failure.map fun f =>
        "Handler error for '" ++ topic ++ "': " ++ f.message := by
  induction ts with
  | nil => rfl
  | cons t ts ih =>
    have ih := ih fun t hm => ht t (.tail _ hm)
    rw [List.flatMap_cons, List.filter_append, List.map_append, ih, List.filterMap_cons, Turn.records,
      Turn.failures]
    have ht := ht t (.head _)
    cases t.reaction.failure <;> simp [Record.level, Record.text_handlerFailed, ht]

theorem turns_subscription (em : Emission) (guests : Guests ξ σ) (h : Host ξ σ) :
    (em.turns guests h).map (·.subscription) = (h.bus em.bus).live em.topic :=
  Host.turns_subscription

theorem subscribed (hs : h.Sound) (serial : Nat) (priority : Priority) :
    (∃ t ∈ em.turns guests h, t.subscription.serial = serial ∧ t.subscription.priority = priority) ↔
      .subscribed ⟨em.bus, serial⟩ em.topic priority ∈ h.log ∧ .unsubscribed ⟨em.bus, serial⟩ ∉ h.log := by
  rw [← hs.listed ⟨em.bus, serial⟩ em.topic priority]
  constructor
  case mp =>
    intro ⟨t, hm, hs, hp⟩
    have hl : t.subscription ∈ (h.bus em.bus).live em.topic :=
      em.turns_subscription guests h ▸ List.mem_map_of_mem hm
    have ⟨hl, ht⟩ := Bus.mem_live.mp hl
    exact ⟨t.subscription, hl, hs, ht, hp⟩
  case mpr =>
    intro ⟨s, hl, hs, ht, hp⟩
    have hm : s ∈ (em.turns guests h).map (·.subscription) :=
      em.turns_subscription guests h ▸ Bus.mem_live.mpr ⟨hl, ht⟩
    have ⟨t, hm, he⟩ := List.mem_map.mp hm
    exact ⟨t, hm, he ▸ hs, he ▸ hp⟩

theorem unheard (hs : h.Sound) (em : Emission) : h.log.filter (·.isAbout em.bus (em.envelope h)) = [] := by
  rw [List.filter_eq_nil_iff]
  intro r hm ha
  have hk := (hs.known r hm).event em.bus (em.envelope h) (by simpa [Record.isAbout] using ha)
  exact Nat.lt_irrefl _ hk

theorem filter_isAbout_carryOut (turn : ∀ t ∈ em.turns guests h, Host.Later t.before t.after) :
    (em.carryOut guests h).2.log.filter (·.isAbout em.bus (em.envelope h)) =
      h.log.filter (·.isAbout em.bus (em.envelope h)) ++
        .emitted em.bus (em.envelope h) :: (em.turns guests h).flatMap (·.records em.bus) := by
  have numbered : (em.envelope h).sequence ≤ ((em.numbered h).bus em.bus).sequence := by
    rw [Emission.bus_numbered, if_pos rfl]
    exact Nat.le_refl _
  have he : (em.numbered h).log.filter (·.isAbout em.bus (em.envelope h)) =
      h.log.filter (·.isAbout em.bus (em.envelope h)) ++ [.emitted em.bus (em.envelope h)] :=
    Host.filter_isAbout_note rfl
  rw [carryOut_snd, Host.filter_isAbout_deliver numbered turn, he, List.append_assoc]
  rfl

theorem recorded (hs : h.Sound) (turn : ∀ t ∈ em.turns guests h, Host.Later t.before t.after) :
    (em.carryOut guests h).2.log.filter (·.isAbout em.bus (em.envelope h)) =
      .emitted em.bus (em.envelope h) :: (em.turns guests h).flatMap (·.records em.bus) := by
  rw [filter_isAbout_carryOut turn, unheard hs, List.nil_append]

theorem count_emitted_eq (log : List Record) (b : BusId) (e : Envelope) :
    log.count (.emitted b e) = (log.filter (·.isAbout b e)).count (.emitted b e) :=
  (List.count_filter (by simp [Record.isAbout, Record.event?])).symm

theorem count_unheard (hs : h.Sound) (em : Emission) : h.log.count (.emitted em.bus (em.envelope h)) = 0 := by
  rw [count_emitted_eq, unheard hs, List.count_nil]

theorem count_emitted (turn : ∀ t ∈ em.turns guests h, Host.Later t.before t.after) :
    (em.carryOut guests h).2.log.count (.emitted em.bus (em.envelope h)) =
      h.log.count (.emitted em.bus (em.envelope h)) + 1 := by
  have reactions : ((em.turns guests h).flatMap (·.records em.bus)).count (.emitted em.bus (em.envelope h)) = 0 := by
    rw [List.count_eq_zero]
    intro hm
    obtain ⟨t, _, hr⟩ := List.mem_flatMap.mp hm
    simp [Turn.records, Turn.failures] at hr
  rw [count_emitted_eq, filter_isAbout_carryOut turn, List.count_append, List.count_cons_self, reactions,
    ← count_emitted_eq]

theorem logged_once (turn : ∀ t ∈ em.turns guests h, Host.Later t.before t.after) :
    ∃ rs, (em.carryOut guests h).2.log = h.log ++ rs ∧ rs.count (.emitted em.bus (em.envelope h)) = 1 := by
  have ⟨rs, hl, _⟩ := (Host.Later.refl.emission turn).left.logs
  have sent := count_emitted turn
  rw [hl, List.count_append] at sent
  exact ⟨rs, hl, Nat.add_left_cancel sent⟩

theorem fulfilled (hs : h.Sound) (turn : ∀ t ∈ em.turns guests h, Host.Later t.before t.after) :
    em.Fulfilled guests h where
  audience   := em.turns_subscription guests h
  ordered    := by
    rw [em.turns_subscription guests h]
    exact (hs.orderly em.bus).live em.topic
  subscribed := subscribed hs
  inTurn     := em.inTurn guests h
  recorded   := recorded hs turn
  errors     := by
    have ht : ∀ t ∈ em.turns guests h, t.event.envelope.topic = em.topic := by
      intro t ht
      rw [Host.turns_envelope ht]
      rfl
    rw [← List.filter_filter, recorded hs turn, List.filter_cons_of_neg (by simp [Record.level]),
      errors_records ht]
  returned   := Prod.ext rfl Host.deliver_fst

end Emission

namespace Program

-- Whatever guests do while they are notified, and however deep they nest it, each event is delivered as it
-- should be, the events that are sent meanwhile included. To send one never fails, and nothing else is
-- done because of it.
theorem emission_fulfilled (behave : Behaviour ξ σ) (files : FileTree) (environment : Environment)
    (memory : σ) (p : Program ξ σ α) (n m : Nat) {a₀ a : Act ξ} {h₀ h h₁ : Host ξ σ} {em : Emission}
    (act : (a₀, h₀) ∈ p.acts (Host.perform behave n) (.new files environment memory))
    (course : Behaviour.Course behave n a₀ h₀ (m + 1) a h) (opening : a.opening h = (some em, h₁)) :
    em.Fulfilled (behave.guests m) h₁ ∧
      (Host.perform behave (m + 1) a h).2 = a.closing (em.carryOut (behave.guests m) h₁).2 ∧
      Host.perform behave (m + 1) (.emit em.bus em.topic em.source em.payload) h₁ =
        (.ok (em.carryOut (behave.guests m) h₁).1, (em.carryOut (behave.guests m) h₁).2) := by
  have begun : Host.Later (.new files environment memory) h :=
    ((Host.Later.refl.run p n).right _ _ act).course course
  have opened : Host.Later (.new files environment memory) h₁ := by
    have ho := begun.opening a
    rwa [opening] at ho
  have outcome : (Host.perform behave (m + 1) a h).2 = a.closing (em.carryOut (behave.guests m) h₁).2 := by
    rw [Behaviour.perform_succ, Act.carryOut_snd, Act.outcome, opening]
  -- The turns of the act are those of its event, so what comes after each of them is later than what is before.
  have turns : a.turns (behave.guests m) h = em.turns (behave.guests m) h₁ := by
    rw [Act.turns, opening]
  refine ⟨Emission.fulfilled ((Host.Sound.new _ _ _).later opened) fun t ht => ?_, outcome, rfl⟩
  rw [← turns] at ht
  exact .turn ht

def echo : Behaviour Unit Unit := fun _ e =>
  if e.envelope.topic = "call" then do
    let _ ← perform (.emit ⟨0⟩ "echo" "guest" e.payload)
    let _ ← perform (.unsubscribe ⟨⟨0⟩, 0⟩)
    return { payload := e.payload, failure := some (.raised "gone") }
  else return { payload := e.payload, failure := none }

def gather : Program Unit Unit Unit := do
  let _ ← perform (.subscribe ⟨0⟩ "call" .high ())
  let _ ← perform (.subscribe ⟨0⟩ "echo" .low ())

def call : Program Unit Unit Unit := do
  gather
  let _ ← perform (.emit ⟨0⟩ "call" "host" (.ofEntries .empty))

theorem emission_fulfilled_echo :
    let em : Emission := { bus := ⟨0⟩, topic := "call", source := "host", payload := .ofEntries .empty }
    let h := (gather.run (Host.perform echo 2) (.new .bare {} ())).2
    ∃ t ∈ em.turns (echo.guests 1) h,
      t.reaction.failure = some (.raised "gone") ∧
      Emission.Fulfilled { em with topic := "echo", source := "guest" } (echo.guests 0) t.before :=
  have act := .tail _ (.tail _ (.head _))
  have course := .nest (.head _) rfl (.head _) .refl
  ⟨_, .head _, rfl, (emission_fulfilled echo .bare {} () call 2 0 act course rfl).left⟩

end Program
end Chatline
