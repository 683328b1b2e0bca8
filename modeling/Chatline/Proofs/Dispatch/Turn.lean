import Chatline.Program
import Chatline.Proofs.Host

namespace Chatline

structure Turn (ξ σ : Type) where
  subscription : Subscription (Observer ξ)
  event        : Event
  before       : Host ξ σ
  reaction     : Reaction
  after        : Host ξ σ

structure Emission where
  bus     : BusId
  topic   : String
  source  : String
  payload : Payload

variable {ξ σ α : Type}

namespace Turn

theorem guest_or_plugin (t : Turn ξ σ) :
    (∃ x, t.subscription.observer = .guest x) ∨ ∀ x, t.subscription.observer ≠ .guest x := by
  cases t.subscription.observer <;> simp

-- What the observer has done whose turn it was. Guests do as they please, with everything that this does to the host.
-- The observers of a plugin put its template on a message, resolve it, or bind providers anew.
def Taken (guests : Guests ξ σ) (t : Turn ξ σ) : Prop :=
  match t.subscription.observer with
  | .installer id => t.reaction = t.before.install id t.event.payload ∧ t.after = t.before
  | .resolver id  => (t.reaction, t.after) = t.before.resolve id t.event.payload
  | .rebinder id  =>
    t.reaction.payload = t.event.payload ∧
      t.before.rebind id t.event.payload.kind? = (t.reaction.failure.elim (.ok ()) .error, t.after)
  | .guest x      => (t.reaction, t.after) = guests x t.event t.before

theorem taken_of_react {guests : Guests ξ σ} {t : Turn ξ σ}
    (hr : (t.reaction, t.after) = t.before.react guests t.subscription.observer t.event) : t.Taken guests := by
  have reaction := congrArg Prod.fst hr
  have after := congrArg Prod.snd hr
  dsimp only at reaction after
  simp only [Taken]
  split
  case h_1 ho => rw [reaction, after, ho]; exact ⟨rfl, rfl⟩
  case h_2 ho => rw [reaction, after, ho]; rfl
  case h_3 id ho =>
    rw [reaction, after, ho]
    simp only [Host.react]
    cases t.before.rebind id t.event.payload.kind? with
    | mk result h => cases result <;> exact ⟨rfl, rfl⟩
  case h_4 ho => rw [reaction, after, ho]; rfl

def failures (b : BusId) (t : Turn ξ σ) : List Record :=
  (t.reaction.failure.map fun f => .handlerFailed b t.event.envelope f.message).toList

def records (b : BusId) (t : Turn ξ σ) : List Record :=
  .delivered b t.event.envelope t.subscription.serial :: t.failures b

-- Turns that follow upon each other, from a payload and a host on: everyone is given what the one before has made of
-- the payload, and finds the host as the one before has left it, with its failure on record.
inductive InTurn (guests : Guests ξ σ) (b : BusId) (e : Envelope) :
    List (Turn ξ σ) → Payload → Host ξ σ → Payload → Host ξ σ → Prop
  | done {p h} : InTurn guests b e [] p h p h
  | next {t ts p h p' h'} :
    t.event = { envelope := e, payload := p } → t.before = h.note (.delivered b e t.subscription.serial) →
    t.Taken guests → InTurn guests b e ts t.reaction.payload (t.after.noteAll (t.failures b)) p' h' →
    InTurn guests b e (t :: ts) p h p' h'

end Turn

namespace Host

def turn (guests : Guests ξ σ) (b : BusId) (e : Envelope) (s : Subscription (Observer ξ)) (p : Payload)
    (h : Host ξ σ) : Turn ξ σ :=
  let before := h.note (.delivered b e s.serial)
  let event : Event := { envelope := e, payload := p }
  let (reaction, after) := before.react guests s.observer event
  { subscription := s, event, before, reaction, after }

def turns (guests : Guests ξ σ) (b : BusId) (e : Envelope) :
    List (Subscription (Observer ξ)) → Payload → Host ξ σ → List (Turn ξ σ)
  | [],      _, _ => []
  | s :: ss, p, h =>
    let t := h.turn guests b e s p
    t :: turns guests b e ss t.reaction.payload (t.after.noteFailure b e t.reaction.failure)

variable {guests : Guests ξ σ} {b : BusId} {e : Envelope} {s : Subscription (Observer ξ)}
  {ss : List (Subscription (Observer ξ))} {p : Payload} {h : Host ξ σ}

theorem deliver_cons : deliver guests b e (s :: ss) p h =
    deliver guests b e ss (h.turn guests b e s p).reaction.payload
      ((h.turn guests b e s p).after.noteFailure b e (h.turn guests b e s p).reaction.failure) :=
  rfl

theorem turns_subscription : (turns guests b e ss p h).map (·.subscription) = ss := by
  induction ss generalizing p h with
  | nil => rfl
  | cons s ss ih => exact congrArg (s :: ·) ih

theorem turns_envelope {t : Turn ξ σ} (ht : t ∈ turns guests b e ss p h) : t.event.envelope = e := by
  induction ss generalizing p h with
  | nil => cases ht
  | cons s ss ih =>
    cases ht with
    | head      => rfl
    | tail _ ht => exact ih ht

theorem turns_react {t : Turn ξ σ} (ht : t ∈ turns guests b e ss p h) :
    (t.reaction, t.after) = t.before.react guests t.subscription.observer t.event := by
  induction ss generalizing p h with
  | nil => cases ht
  | cons s ss ih =>
    cases ht with
    | head      => rfl
    | tail _ ht => exact ih ht

theorem noteFailure_eq (failure : Option Failure) : h.noteFailure b e failure =
    h.noteAll (failure.map fun f => .handlerFailed b e f.message).toList := by
  cases failure with
  | none   => simp [noteFailure, noteAll]
  | some f => rfl

theorem inTurn_turns : Turn.InTurn guests b e (turns guests b e ss p h) p h
    (deliver guests b e ss p h).1 (deliver guests b e ss p h).2 := by
  induction ss generalizing p h with
  | nil => exact .done
  | cons s ss ih =>
    have taken : (h.turn guests b e s p).Taken guests := Turn.taken_of_react rfl
    have noted : (h.turn guests b e s p).after.noteFailure b e (h.turn guests b e s p).reaction.failure =
        (h.turn guests b e s p).after.noteAll ((h.turn guests b e s p).failures b) := noteFailure_eq _
    refine .next rfl rfl taken ?_
    rw [← noted]
    exact ih

theorem noteFailure_preserves {P : Host ξ σ → Prop} (hP : P h) (failed : ∀ f, P (h.note (.handlerFailed b e f)))
    (failure : Option Failure) : P (h.noteFailure b e failure) := by
  cases failure with
  | none   => exact hP
  | some f => exact failed f.message

theorem deliver_preserves {P : Host ξ σ → Prop}
    (delivered : ∀ h s, P h → P (h.note (.delivered b e s)))
    (failed : ∀ h f, P h → P (h.note (.handlerFailed b e f)))
    (turn : ∀ t ∈ turns guests b e ss p h, P t.before → P t.after) (hP : P h) :
    P (deliver guests b e ss p h).2 ∧ ∀ t ∈ turns guests b e ss p h, P t.before := by
  induction ss generalizing p h with
  | nil => exact ⟨hP, fun _ ht => nomatch ht⟩
  | cons s ss ih =>
    have before : P (h.turn guests b e s p).before := delivered h s.serial hP
    have after : P (h.turn guests b e s p).after := turn _ (.head _) before
    have noted : P ((h.turn guests b e s p).after.noteFailure b e (h.turn guests b e s p).reaction.failure) :=
      noteFailure_preserves after (fun f => failed _ f after) _
    have ⟨hd, ht⟩ := ih (fun t ht => turn t (.tail _ ht)) noted
    constructor
    case left => exact hd
    case right =>
      intro t hm
      cases hm with
      | head      => exact before
      | tail _ hm => exact ht t hm

end Host

namespace Emission

def envelope (em : Emission) (h : Host ξ σ) : Envelope :=
  ((h.bus em.bus).number em.topic em.source).1

def numbered (em : Emission) (h : Host ξ σ) : Host ξ σ :=
  (h.setBus em.bus ((h.bus em.bus).number em.topic em.source).2).note (.emitted em.bus (em.envelope h))

def audience (em : Emission) (h : Host ξ σ) : List (Subscription (Observer ξ)) :=
  (h.bus em.bus).live em.topic

theorem bus_numbered (em : Emission) (h : Host ξ σ) (b : BusId) :
    (em.numbered h).bus b =
      if b = em.bus then ((h.bus em.bus).number em.topic em.source).2 else h.bus b :=
  Host.bus_setBus h em.bus b _

def turns (em : Emission) (guests : Guests ξ σ) (h : Host ξ σ) : List (Turn ξ σ) :=
  Host.turns guests em.bus (em.envelope h) (em.audience h) em.payload (em.numbered h)

def carryOut (em : Emission) (guests : Guests ξ σ) (h : Host ξ σ) :
    (Envelope × Payload) × Host ξ σ :=
  h.emit guests em.bus em.topic em.source em.payload

theorem carryOut_snd (em : Emission) (guests : Guests ξ σ) (h : Host ξ σ) :
    (em.carryOut guests h).2 =
      (Host.deliver guests em.bus (em.envelope h) (em.audience h) em.payload (em.numbered h)).2 :=
  rfl

theorem inTurn (em : Emission) (guests : Guests ξ σ) (h : Host ξ σ) :
    Turn.InTurn guests em.bus (em.envelope h) (em.turns guests h) em.payload (em.numbered h)
      (em.carryOut guests h).1.2 (em.carryOut guests h).2 :=
  Host.inTurn_turns

end Emission

namespace Act

def silence : Guests ξ σ :=
  fun _ e h => ({ payload := e.payload, failure := none }, h)

def reloading (h : Host ξ σ) (id : PluginId) (settings : Option Settings) :
    Option Emission × Host ξ σ :=
  match h.settle id settings with
  | (.error _, h)     => (none, h)
  | (.ok template, h) =>
    (some { bus := (h.plugin id).bus, topic := Host.reloadedTopic, source := Host.reloadedSource
            payload := .ofTemplate template }, h)

-- An act sends at most one event. This is the event, and what has been done before it is sent. Without an
-- event, it is all that is done.
def opening : Act ξ → Host ξ σ → Option Emission × Host ξ σ
  | emit bus topic source payload, h => (some { bus, topic, source, payload }, h)
  | register d k p, h =>
    let h := (h.setDirectory d ((h.directory d).register k p)).note (.registered d k p)
    (some { bus := (h.directory d).bus, topic := Directory.registered, source := Directory.source
            payload := .ofProvider k p }, h)
  | unregister d k p, h =>
    if (h.directory d).holds k p then
      let h := (h.setDirectory d ((h.directory d).unregister k p)).note (.unregistered d k p)
      (some { bus := (h.directory d).bus, topic := Directory.unregistered, source := Directory.source
              payload := .ofProvider k p }, h)
    else (none, h)
  | publish bus player body, h =>
    (some { bus, topic := Host.chatTopic, source := Host.chatSource
            payload := .ofChat (.new player body) }, h)
  | enable id settings, h =>
    match h.provideDefault id with
    | (.error _, h) => (none, h)
    | (.ok _, h)    => reloading h id settings
  | command id args, h =>
    if args.head?.any (·.map Char.toLower == "reload") then reloading h id none else (none, h)
  | a, h => (none, (a.carryOut silence h).2)

def closing : Act ξ → Host ξ σ → Host ξ σ
  | enable id _, h =>
    match h.refresh id with
    | (.error _, h) => h
    | (.ok (), h)   => h.listen id
  | _, h => h

def outcome (a : Act ξ) (guests : Guests ξ σ) (h : Host ξ σ) : Host ξ σ :=
  match a.opening h with
  | (none, h)    => h
  | (some em, h) => a.closing (em.carryOut guests h).2

theorem command_snd (guests : Guests ξ σ) (h : Host ξ σ) (id : PluginId) (args : List String) :
    (h.command guests id args).2 = (command id args).outcome guests h := by
  simp only [outcome, opening, Host.command]
  by_cases hr : args.head?.any (·.map Char.toLower == "reload")
  case neg => simp only [hr]; rfl
  case pos =>
    simp only [hr, if_true, Host.reloadSettings, reloading]
    cases hs : h.settle id none with
    | mk settled h' => cases settled <;> rfl

theorem enable_snd (guests : Guests ξ σ) (h : Host ξ σ) (id : PluginId) (settings : Option Settings) :
    (h.enable guests id settings).2 = (enable id settings).outcome guests h := by
  simp only [outcome, opening, Host.enable]
  simp only [Host.reloadSettings, reloading]
  cases hs : h.provideDefault id with
  | mk saved h₁ =>
    cases saved with
    | error f => rfl
    | ok w =>
      dsimp only
      cases hl : h₁.settle id settings with
      | mk settled h₂ =>
        cases settled with
        | error f => rfl
        | ok t =>
          dsimp only [closing, Emission.carryOut, Host.refresh]
          split <;> rfl

theorem opening_of_enable_ok {guests : Guests ξ σ} {h : Host ξ σ} {id : PluginId}
    {settings : Option Settings} (ok : (h.enable guests id settings).1 = .ok ()) :
    ∃ em h', (enable id settings : Act ξ).opening h = (some em, h') := by
  simp only [Host.enable] at ok
  simp only [opening]
  cases hs : h.provideDefault id with
  | mk saved h₁ =>
    simp only [hs] at ok ⊢
    cases saved with
    | error f => cases ok
    | ok w =>
      simp only [Host.reloadSettings, reloading] at ok ⊢
      cases hl : h₁.settle id settings with
      | mk settled h₂ =>
        simp only [hl] at ok ⊢
        cases settled with
        | error f => cases ok
        | ok t    => exact ⟨_, _, rfl⟩

theorem carryOut_snd (a : Act ξ) (guests : Guests ξ σ) (h : Host ξ σ) :
    (a.carryOut guests h).2 = a.outcome guests h := by
  cases a
  case unregister d k p =>
    simp only [outcome, opening, carryOut, Host.unregister]
    by_cases hp : (h.directory d).holds k p
    case pos => simp only [hp, if_true]; rfl
    case neg => simp only [hp]; rfl
  case enable id settings => exact enable_snd guests h id settings
  case command id args => exact command_snd guests h id args
  all_goals rfl

end Act
end Chatline
