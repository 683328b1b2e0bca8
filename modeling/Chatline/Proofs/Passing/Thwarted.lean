import Chatline.Proofs.Dispatch.Delivery
import Chatline.Proofs.Format.Lookups
import Chatline.Proofs.Lifecycle.Once
import Chatline.Proofs.Passing.Akin
import Chatline.Proofs.Passing.Pipeline

namespace Chatline

variable {ξ σ α β : Type}

theorem Errand.last_of_failed {providers : ProviderId → Provider} {due before after : List Errand} {e : Errand}
    {f : Failure} (split : run providers due = before ++ e :: after) (failed : e.reply providers = .error f) :
    after = [] := by
  induction due generalizing before with
  | nil => simp [run] at split
  | cons d due ih =>
    cases hd : d.reply providers with
    | error g =>
      rw [run_cons_error hd] at split
      cases before with
      | nil      => exact (List.cons.inj split).right.symm
      | cons _ _ => simp at split
    | ok answer =>
      rw [run_cons_ok hd] at split
      cases before with
      | nil      =>
        cases (List.cons.inj split).left
        cases hd.symm.trans failed
      | cons _ _ => exact ih (List.cons.inj split).right

theorem Bindings.format_failed {b : Bindings} {providers : ProviderId → Provider} {m : ChatMessage}
    {made further : List Asked} {q : Asked} {f : Failure} (asked : (b.format providers m).asked = made ++ q :: further)
    (failed : (providers q.provider).answer q.request = .error f) :
    further = [] ∧ (b.format providers m).outcome = .error f := by
  rw [Host.format_eq, Sources.context_eq, Sources.resolve_conduct] at asked ⊢
  dsimp only at asked ⊢
  rw [Errand.conduct_asked] at asked
  obtain ⟨before, rest, split, _, hr⟩ := List.map_eq_append_iff.mp asked
  obtain ⟨e, after, split', rfl, ha⟩ := List.map_eq_cons_iff.mp hr
  subst split'
  constructor
  case left =>
    rw [← ha, Errand.last_of_failed split failed]
    rfl
  case right =>
    have ran : e ∈ Errand.run providers _ := split ▸ List.mem_append_right _ (.head _)
    rw [(Errand.failed ran failed _).right]
    rfl

namespace Host

variable {h : Host ξ σ} {id : PluginId} {p : Payload} {m : ChatMessage} {f : Failure}

theorem resolve_of_unreadable (hm : p.chat = .error f) : h.resolve id p = ({ payload := p, failure := some f }, h) := by
  rw [resolve, hm]

theorem resolve_snd (hm : p.chat = .ok m) :
    (h.resolve id p).2 = { h with asked := h.asked ++ ((h.plugin id).bindings.format h.provider m).asked } := by
  simp only [resolve, hm]
  split <;> rfl

theorem resolve_of_failed (hm : p.chat = .ok m)
    (failed : ((h.plugin id).bindings.format h.provider m).outcome = .error f) :
    h.resolve id p =
      ({ payload := p, failure := some f },
        { h with asked := h.asked ++ ((h.plugin id).bindings.format h.provider m).asked }) := by
  simp only [resolve, hm, failed]

end Host

namespace Turn

-- A second pass of a plugin in which a question is answered with a failure, and what else has been asked.
structure Thwarted (id : PluginId) (made further : List Asked) (q : Asked) (f : Failure) (t : Turn ξ σ) : Prop where
  pass   : t.subscription.observer = .resolver id
  asked  : t.after.asked = t.before.asked ++ (made ++ q :: further)
  failed : (t.before.provider q.provider).answer q.request = .error f

structure Fruitless (f : Failure) (t : Turn ξ σ) : Prop where
  reaction : t.reaction = { payload := t.event.payload, failure := some f }
  after    : t.after = { t.before with asked := t.after.asked }

theorem Thwarted.fruitless {id : PluginId} {made further : List Asked} {q : Asked} {f : Failure} {t : Turn ξ σ}
    {guests : Guests ξ σ} (ht : t.Thwarted id made further q f)
    (reacted : (t.reaction, t.after) = t.before.react guests t.subscription.observer t.event) :
    further = [] ∧ t.Fruitless f := by
  have reacted : (t.reaction, t.after) = t.before.resolve id t.event.payload := by
    rw [reacted, ht.pass]
    rfl
  cases hm : t.event.payload.chat with
  | error e =>
    rw [Host.resolve_of_unreadable hm] at reacted
    have nothing : t.after = t.before := congrArg Prod.snd reacted
    have asked := ht.asked
    simp [nothing] at asked
  | ok m    =>
    have after := (congrArg Prod.snd reacted).trans (Host.resolve_snd hm)
    have asked : ((t.before.plugin id).bindings.format t.before.provider m).asked = made ++ q :: further :=
      List.append_cancel_left ((congrArg Host.asked after).symm.trans ht.asked)
    have ⟨nothing, outcome⟩ := Bindings.format_failed asked ht.failed
    rw [Host.resolve_of_failed hm outcome] at reacted
    obtain ⟨reaction, after⟩ := Prod.mk.inj reacted
    exact ⟨nothing, reaction, by rw [after]⟩

end Turn

namespace Host

variable {guests : Guests ξ σ} {b : BusId} {e : Envelope} {ss : List (Subscription (Observer ξ))} {p : Payload}
  {h : Host ξ σ} {earlier later : List (Turn ξ σ)} {t : Turn ξ σ}

theorem deliver_split (split : turns guests b e ss p h = earlier ++ t :: later) :
    later = turns guests b e (later.map (·.subscription)) t.reaction.payload
      (t.after.noteFailure b e t.reaction.failure) ∧
    deliver guests b e ss p h = deliver guests b e (later.map (·.subscription)) t.reaction.payload
      (t.after.noteFailure b e t.reaction.failure) := by
  induction ss generalizing p h earlier with
  | nil => simp [turns] at split
  | cons s ss ih =>
    cases earlier with
    | nil      =>
      obtain ⟨rfl, rest⟩ := List.cons.inj split
      rw [← rest, turns_subscription]
      exact ⟨rfl, rfl⟩
    | cons _ _ => exact ih (List.cons.inj split).right

end Host

namespace Emission

variable {em : Emission} {guests : Guests ξ σ} {h : Host ξ σ} {earlier later : List (Turn ξ σ)} {t : Turn ξ σ}
  {f : Failure}

def goOn (em : Emission) (guests : Guests ξ σ) (h : Host ξ σ) (later : List (Turn ξ σ)) (p : Payload)
    (now : Host ξ σ) : Payload × Host ξ σ :=
  Host.deliver guests em.bus (em.envelope h) (later.map (·.subscription)) p now

-- A failure that has been overcome: it has been logged once, and everyone else who is subscribed is notified of the
-- event as it was before.
structure Overcome (em : Emission) (guests : Guests ξ σ) (h : Host ξ σ) (earlier : List (Turn ξ σ)) (t : Turn ξ σ)
    (later : List (Turn ξ σ)) (f : Failure) : Prop where
  fruitless : t.Fruitless f
  audience  : (earlier ++ t :: later).map (·.subscription) = (h.bus em.bus).live em.topic
  onward    : later = Host.turns guests em.bus (em.envelope h) (later.map (·.subscription)) t.event.payload
    (t.after.note (.handlerFailed em.bus (em.envelope h) f.message))
  delivered : em.carryOut guests h =
    let rest := em.goOn guests h later t.event.payload (t.after.note (.handlerFailed em.bus (em.envelope h) f.message))
    ((em.envelope h, rest.1), rest.2)
  recorded  : (em.carryOut guests h).2.log.filter (·.isAbout em.bus (em.envelope h)) =
    .emitted em.bus (em.envelope h) :: (earlier.flatMap (·.records em.bus) ++
      .delivered em.bus (em.envelope h) t.subscription.serial ::
      .handlerFailed em.bus (em.envelope h) f.message :: later.flatMap (·.records em.bus))

theorem overcome (sound : h.Sound) (turn : ∀ t ∈ em.turns guests h, Host.Later t.before t.after)
    (notified : em.turns guests h = earlier ++ t :: later) (fruitless : t.Fruitless f) :
    em.Overcome guests h earlier t later f := by
  have ⟨onward, delivered⟩ := Host.deliver_split notified
  rw [fruitless.reaction] at onward delivered
  constructor
  case fruitless => exact fruitless
  case audience  => rw [← notified, em.turns_subscription guests h]
  case onward    => exact onward
  case delivered =>
    have hc : em.carryOut guests h =
      ((em.envelope h, (Host.deliver guests em.bus (em.envelope h) (em.audience h) em.payload (em.numbered h)).1),
       (Host.deliver guests em.bus (em.envelope h) (em.audience h) em.payload (em.numbered h)).2) := rfl
    rw [hc, delivered]
    rfl
  case recorded  =>
    have envelope : t.event.envelope = em.envelope h := by
      have ht : t ∈ em.turns guests h := notified ▸ List.mem_append_right _ (.head _)
      exact Host.turns_envelope ht
    rw [recorded sound turn, notified, List.flatMap_append, List.flatMap_cons, Turn.records, Turn.failures, envelope,
      fruitless.reaction]
    rfl

theorem Overcome.subscribed (ho : em.Overcome guests h earlier t later f) {t' : Turn ξ σ}
    (ht : t' ∈ earlier ++ t :: later) : t'.subscription ∈ (h.bus em.bus).subscriptions :=
  (Bus.mem_live.mp (ho.audience ▸ List.mem_map_of_mem ht)).left

theorem Overcome.other (ho : em.Overcome guests h earlier t later f) (sound : h.Sound) :
    t.subscription ∉ (earlier ++ later).map (·.subscription) := by
  have nodup : ((earlier ++ t :: later).map (·.subscription)).Nodup := by
    rw [ho.audience]
    exact ((sound.orderly em.bus).live em.topic).imp fun hb he => by subst he; simp [Subscription.Before] at hb
  rw [(List.perm_middle.map _).nodup_iff, List.map_cons] at nodup
  exact (List.nodup_cons.mp nodup).left

theorem Overcome.unnoticed (ho : em.Overcome guests h earlier t later f) (hg : Host.Respects Host.Akin guests) :
    Host.Agree Host.Akin ((em.carryOut guests h).1.2, (em.carryOut guests h).2)
      (em.goOn guests h later t.event.payload t.before) := by
  have akin : Host.Akin (t.after.note (.handlerFailed em.bus (em.envelope h) f.message)) t.before := by
    rw [ho.fruitless.after]
    rfl
  rw [ho.delivered]
  exact Host.Akin.kindred.deliver akin hg _ _ rfl _

end Emission

namespace Behaviour

variable {behave : Behaviour ξ σ} {id : PluginId} {n m : Nat} {h h' h₀ : Host ξ σ}

-- A lookup that fails does no harm, at whatever depth the message is sent. Nothing else is looked up, the failure is
-- logged once, and everyone else is notified of the message as it was before. If the plugin has begun to listen at most
-- once, none of them is another second pass of it. What is done next comes out as if there had been no such pass,
-- unless someone looks at what has been logged and asked.
theorem lookup_overcome (files : FileTree) (environment : Environment) (memory : σ) (p : Program ξ σ α)
    (once : (behave.career id n p (.new files environment memory)).countP Milestone.begins ≤ 1) {a₀ : Act ξ}
    (act : (a₀, h₀) ∈ p.acts (Host.perform behave n) (.new files environment memory)) {b : BusId} {player : Player}
    {body : String} (course : Course behave n a₀ h₀ (m + 1) (.publish b player body) h')
    {earlier later : List (Turn ξ σ)} {t : Turn ξ σ}
    (notified : (Act.publish b player body).turns (behave.guests m) h' = earlier ++ t :: later)
    {made further : List Asked} {q : Asked} {f : Failure} (thwarted : t.Thwarted id made further q f) :
    let em := Host.message b player body
    further = [] ∧ em.Overcome (behave.guests m) h' earlier t later f ∧
      (∀ t' ∈ earlier ++ later, t'.subscription.observer ≠ .resolver id) ∧
      (∃ reply, Host.perform behave (m + 1) (.publish b player body) h' =
        (.ok reply, (em.carryOut (behave.guests m) h').2)) ∧
      ((∀ x e, (behave x e).Overlooks Host.Akin) →
        let unnoticed := em.goOn (behave.guests m) h' later t.event.payload t.before
        (em.carryOut (behave.guests m) h').1.2 = unnoticed.1 ∧
          ∀ (l : Nat) {γ : Type} (next : Program ξ σ γ), next.Overlooks Host.Akin →
            (next.run (Host.perform behave l) (em.carryOut (behave.guests m) h').2).1 =
              (next.run (Host.perform behave l) unnoticed.2).1) := by
  intro em
  have ht : t ∈ (Act.publish b player body).turns (behave.guests m) h' :=
    notified ▸ List.mem_append_right _ (.head _)
  have ⟨nothing, fruitless⟩ := thwarted.fruitless (Act.turns_react ht)
  have later₀ : Host.Later (.new files environment memory) h' := ((Host.Later.refl.run p n).right _ _ act).course course
  have sound : h'.Sound := (Host.Sound.new files environment memory).later later₀
  have overcome : em.Overcome (behave.guests m) h' earlier t later f :=
    Emission.overcome sound (fun _ ht => Host.Later.turn (a := .publish b player body) ht) notified fruitless
  refine ⟨nothing, overcome, ?unique, ⟨_, rfl⟩, ?unnoticed⟩
  case unique =>
    intro t' hm pass
    have silent : ¬(Host.new files environment memory : Host ξ σ).Observes id := fun ⟨_, _, hs, _⟩ => nomatch hs
    -- Another second pass would be that of the same subscription, and nobody has two turns.
    have same := resolver_unique p silent once act course
      (overcome.subscribed (List.perm_middle.mem_iff.mpr (.tail _ hm)))
      (overcome.subscribed (List.mem_append_right _ (.head _))) pass thwarted.pass
    exact overcome.other sound (same ▸ List.mem_map_of_mem hm)
  case unnoticed =>
    intro overlooks
    have ⟨same, akin⟩ := overcome.unnoticed (Host.Akin.respects overlooks m)
    exact ⟨same, fun l _ _ overlooked => (akin.run overlooks l overlooked).left⟩

def churlish : Provider :=
  .chatMeta "churlish" (fun _ => .ok (some "&a*")) fun _ => .error (.raised "no")

def polite : Behaviour Unit Unit :=
  fun _ e => pure { payload := e.payload, failure := none }

def ann : Player :=
  { identity := .oidSpace, name := "Ann", displayName := none }

def prepareChurlish : Program Unit Unit Unit := do
  let _ ← Program.perform (.attach none false none none)
  let _ ← Program.perform (.enable ⟨2⟩ (some .default))
  let _ ← Program.perform (.introduce churlish)
  let _ ← Program.perform (.register ⟨1⟩ .chatMeta ⟨3⟩)
  let _ ← Program.perform (.subscribe ⟨0⟩ Host.chatTopic .monitor ())

def greetChurlish : Program Unit Unit Unit := do
  prepareChurlish
  let _ ← Program.perform (.publish ⟨0⟩ ann "hi")

def prepared : Host Unit Unit :=
  (prepareChurlish.run (Host.perform polite 2) (.new .bare {} ())).2

theorem lookup_overcome_churlish :
    let em := Host.message ⟨0⟩ ann "hi"
    ∃ earlier t later, (Act.publish ⟨0⟩ ann "hi").turns (polite.guests 1) prepared = earlier ++ t :: later ∧
      t.Thwarted ⟨2⟩ [⟨⟨3⟩, .playerPrefix .oidSpace⟩] [] ⟨⟨3⟩, .playerSuffix .oidSpace⟩ (.raised "no") ∧
      em.Overcome (polite.guests 1) prepared earlier t later (.raised "no") ∧ later.length = 1 ∧
      let next : Program Unit Unit _ := Program.perform (.publish ⟨0⟩ ann "again")
      (next.run (Host.perform polite 2) (em.carryOut (polite.guests 1) prepared).2).1 =
        (next.run (Host.perform polite 2) (em.goOn (polite.guests 1) prepared later t.event.payload t.before).2).1 := by
  intro em
  have once : (polite.career ⟨2⟩ 2 greetChurlish (.new .bare {} ())).countP Milestone.begins ≤ 1 := Nat.le_of_eq rfl
  have act : (.publish ⟨0⟩ ann "hi", prepared) ∈ greetChurlish.acts (Host.perform polite 2) (.new .bare {} ()) :=
    .tail _ (.tail _ (.tail _ (.tail _ (.tail _ (.head _)))))
  obtain ⟨tA, tB, tC, notified, thwarted⟩ : ∃ tA tB tC,
      (Act.publish ⟨0⟩ ann "hi").turns (polite.guests 1) prepared = [tA] ++ tB :: [tC] ∧
        tB.Thwarted ⟨2⟩ [⟨⟨3⟩, .playerPrefix .oidSpace⟩] [] ⟨⟨3⟩, .playerSuffix .oidSpace⟩ (.raised "no") :=
    ⟨_, _, _, rfl, rfl, by decide +kernel, rfl⟩
  have ⟨_, overcome, _, _, unnoticed⟩ := lookup_overcome .bare {} () greetChurlish once act .refl notified thwarted
  refine ⟨[tA], tB, [tC], notified, thwarted, overcome, rfl, ?_⟩
  exact (unnoticed fun _ _ => trivial).right 2 _ fun _ => trivial

end Behaviour

end Chatline
