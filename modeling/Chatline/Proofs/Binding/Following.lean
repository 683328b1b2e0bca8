import Chatline.Proofs.Binding.Sync

namespace Chatline

variable {ξ σ α : Type}

namespace Act

-- What can be done without harm to a plugin: sources of prefixes and suffixes have names, and nobody makes
-- the plugin stop listening.
def Safe (id : PluginId) : Act ξ → Host ξ σ → Prop
  | register d .chatMeta q, h => d = (h.plugin id).directory → h.Named q
  | amend q p, h              =>
    q ∈ (h.directoryOf id).providers .chatMeta → ∃ name, p.name? = .ok name
  | unsubscribe s, h          => Host.Tended.Spares h id s
  | disable id', h            => ∀ s ∈ (h.plugin id').subscriptions, Host.Tended.Spares h id s
  | _, _                      => True

def Concerns (id : PluginId) : Act ξ → Host ξ σ → Prop
  | register d _ _, h   => d = (h.plugin id).directory
  | unregister d _ _, h => d = (h.plugin id).directory
  | _, _                => False

theorem Safe.spares {id : PluginId} {a : Act ξ} {h : Host ξ σ} (safe : a.Safe id h) (s : SubscriptionId)
    (hm : a.Makes h (.unsubscribe s)) : Host.Tended.Spares h id s := by
  cases hm with
  | unsubscribe => exact safe
  | leave hs    => exact safe s hs

end Act

-- Guests do not tamper with what an announcement is about.
def Behaviour.Faithful (behave : Behaviour ξ σ) : Prop :=
  ∀ x e performing h, e.envelope.topic = Directory.registered ∨ e.envelope.topic = Directory.unregistered →
    ((behave x e).run performing h).1.payload.kind? = e.payload.kind?

namespace Host

variable {id : PluginId} {h h' : Host ξ σ}

theorem Tended.opening {a : Act ξ} (hw : h.Wired id) (safe : a.Safe id h) (hc : ¬ a.Concerns id h) :
    Tended id h (a.opening h).2 := by
  refine changes (a.opening_changes h) (.inl hw.plugin) (.inl hw.directory) ?calm ?amended ?spared
  case calm => rintro ⟨⟩ <;> exact hc rfl
  case amended => rintro _ _ ⟨⟩; exact safe
  case spared => exact safe.spares

-- What is kept: before a plugin listens, that it is wired, and afterwards, that it is in step.
def Kept (id : PluginId) : Option (Kind → Prop) → Host ξ σ → Prop
  | none, h   => h.Wired id
  | some K, h => h.InStep id K

theorem Kept.wired {i : Option (Kind → Prop)} (hk : Kept id i h) : h.Wired id := by
  cases i with
  | none   => exact hk
  | some K => exact InStep.wired hk

theorem Kept.tended {i : Option (Kind → Prop)} (hk : Kept id i h) (ht : Tended id h h') : Kept id i h' := by
  cases i with
  | none   => exact Wired.tended hk ht
  | some K => exact InStep.tended hk ht

variable {guests : Guests ξ σ}

theorem Kept.emission {em : Emission} {i : Option (Kind → Prop)} (hk : Kept id i h)
    (turn : ∀ t ∈ em.turns guests h, ∀ i, Kept id i t.before → Kept id i t.after) :
    Kept id i (em.carryOut guests h).2 := by
  apply And.left
  apply deliver_preserves (P := Kept id i)
  case delivered => exact fun _ _ hk => hk.tended (.note _)
  case failed => exact fun _ _ hk => hk.tended (.note _)
  case turn => exact fun t ht => turn t ht i
  case hP => exact hk.tended (.number em)

theorem Kept.announcement {em : Emission} {x : Directory} {r : Record} {k : Kind}
    {i : Option (Kind → Prop)} (hi : Kept id i h) (hx : x.bus = (h.directoryOf id).bus)
    (hn : ∀ q ∈ x.providers .chatMeta, h.Named q)
    (hp : ∀ k', k' ≠ k → x.providers k' = (h.directoryOf id).providers k')
    (hb : em.bus = x.bus)
    (ht : em.topic = Directory.registered ∨ em.topic = Directory.unregistered)
    (hk : em.payload.kind? = some k)
    (turn : ∀ t ∈ em.turns guests ((h.setDirectory (h.plugin id).directory x).note r),
      ∀ i, Kept id i t.before → Kept id i t.after)
    (kind : ∀ t ∈ em.turns guests ((h.setDirectory (h.plugin id).directory x).note r),
      t.event.envelope.topic = Directory.registered ∨ t.event.envelope.topic = Directory.unregistered →
      t.reaction.payload.kind? = t.event.payload.kind?) :
    Kept id i (em.carryOut guests ((h.setDirectory (h.plugin id).directory x).note r)).2 := by
  cases i with
  | none =>
    have hw := (Wired.change hi hx hn).tended (.note r)
    exact emission (i := none) hw turn
  | some K =>
    -- For this kind, the plugin is out of step until its turn comes.
    have hs := (InStep.change hi hx hn hp).tended (.note r)
    have heard := hs.hears em.topic ht
    have bus : em.bus = (h.plugin id).bus := by rw [hb, hx, hi.wired.bus]
    rw [plugin_note, plugin_setDirectory, ← bus] at heard
    have kind : ∀ t ∈ em.turns guests ((h.setDirectory (h.plugin id).directory x).note r),
        t.reaction.payload.kind? = t.event.payload.kind? := by
      intro t hm
      have he := turns_envelope hm
      exact kind t hm (by rw [he]; exact ht)
    exact deliver_rebinds hk heard (fun t hm J => turn t hm (some J)) kind (hs.tended (.number em))

theorem Kept.unconcerned {a : Act ξ} {i : Option (Kind → Prop)} (hi : Kept id i h) (safe : a.Safe id h)
    (hc : ¬ a.Concerns id h) (turn : ∀ t ∈ a.turns guests h, ∀ i, Kept id i t.before → Kept id i t.after) :
    Kept id i (a.carryOut guests h).2 := by
  have ho := hi.tended (.opening hi.wired safe hc)
  cases a.carryOut_cases guests h with
  | inl silent    => exact silent.right.left ▸ ho
  | inr announced =>
    have ⟨em, _, done, notified⟩ := announced
    rw [notified] at turn
    rw [done]
    exact (ho.emission turn).tended (.finishing (a.closing_changes _))

theorem Wired.named_register {k : Kind} {q : ProviderId} (hw : h.Wired id) (hq : k = .chatMeta → h.Named q) :
    ∀ q' ∈ ((h.directoryOf id).register k q).providers .chatMeta, h.Named q' := by
  intro q' hq'
  rw [Directory.providers_register] at hq'
  split at hq'
  case isTrue hk =>
    cases List.mem_append.mp hq' with
    | inl hq' => exact hw.named q' hq'
    | inr hq' =>
      cases List.mem_singleton.mp hq'
      exact hq hk.symm
  case isFalse => exact hw.named q' hq'

theorem Wired.named_unregister (hw : h.Wired id) (k : Kind) (q : ProviderId) :
    ∀ q' ∈ ((h.directoryOf id).unregister k q).providers .chatMeta, h.Named q' := by
  intro q' hq'
  rw [Directory.providers_unregister] at hq'
  split at hq'
  case isTrue => exact hw.named q' (List.mem_filter.mp hq').left
  case isFalse => exact hw.named q' hq'

theorem Kept.carryOut {a : Act ξ} {i : Option (Kind → Prop)} (hi : Kept id i h) (safe : a.Safe id h)
    (turn : ∀ t ∈ a.turns guests h, ∀ i, Kept id i t.before → Kept id i t.after)
    (kind : ∀ t ∈ a.turns guests h,
      t.event.envelope.topic = Directory.registered ∨ t.event.envelope.topic = Directory.unregistered →
      t.reaction.payload.kind? = t.event.payload.kind?) :
    Kept id i (a.carryOut guests h).2 := by
  by_cases hc : a.Concerns id h
  case neg => exact hi.unconcerned safe hc turn
  case pos =>
    rw [Act.carryOut_snd]
    cases a
    case register d k q =>
      subst hc
      let x := (h.directoryOf id).register k q
      have hx : (h.setDirectory (h.plugin id).directory x).directoryOf id = x := directoryOf_setDirectory x
      have hq : k = .chatMeta → h.Named q := by
        intro hk
        subst hk
        exact safe rfl
      have hp : ∀ k', k' ≠ k → x.providers k' = (h.directoryOf id).providers k' := by
        intro k' hk
        rw [Directory.providers_register, if_neg hk]
      exact Kept.announcement hi rfl (hi.wired.named_register hq) hp (congrArg Directory.bus hx) (.inl rfl)
        (Payload.kind?_ofProvider k q) turn kind
    case unregister d k q =>
      subst hc
      let x := (h.directoryOf id).unregister k q
      have hx : (h.setDirectory (h.plugin id).directory x).directoryOf id = x := directoryOf_setDirectory x
      have hp : ∀ k', k' ≠ k → x.providers k' = (h.directoryOf id).providers k' := by
        intro k' hk
        rw [Directory.providers_unregister, if_neg hk]
      simp only [Act.turns, Act.opening] at turn kind
      simp only [Act.outcome, Act.opening]
      by_cases hq : (h.directory (h.plugin id).directory).holds k q
      case neg =>
        -- Nothing has been held, so nothing is announced.
        simp only [hq]
        exact hi
      case pos =>
        simp only [hq, if_true] at turn kind ⊢
        exact Kept.announcement hi rfl (hi.wired.named_unregister k q) hp (congrArg Directory.bus hx)
          (.inr rfl) (Payload.kind?_ofProvider k q) turn kind
    all_goals exact hc.elim

variable {behave : Behaviour ξ σ}

theorem Kept.reacted {a : Act ξ} {t : Turn ξ σ} {i : Option (Kind → Prop)} (ht : t ∈ a.turns guests h)
    (turn : ∀ x, t.subscription.observer = .guest x → Kept id i t.before → Kept id i t.after)
    (hb : Kept id i t.before) : Kept id i t.after := by
  cases t.guest_or_plugin with
  | inl guest  => exact turn guest.choose guest.choose_spec hb
  | inr plugin => exact hb.tended (.turn ht plugin)

theorem Kept.step (faithful : behave.Faithful) {n : Nat} {a : Act ξ} (safe : a.Safe id h)
    (turn : ∀ t ∈ a.turns (behave.guests n) h, ∀ x, t.subscription.observer = .guest x →
      ∀ i, Kept id i t.before → Kept id i t.after)
    (i : Option (Kind → Prop)) (hi : Kept id i h) : Kept id i (a.carryOut (behave.guests n) h).2 := by
  apply hi.carryOut safe
  case turn => exact fun t ht i => reacted ht fun x hx => turn t ht x hx i
  case kind =>
    intro t ht topic
    have hr := congrArg Prod.fst (Act.turns_react ht)
    dsimp only at hr
    rw [hr]
    cases t.guest_or_plugin with
    | inl guest =>
      rw [guest.choose_spec]
      exact faithful guest.choose t.event _ t.before topic
    | inr plugin => exact react_kind? _ plugin

theorem Kept.perform (faithful : behave.Faithful) {n : Nat} {a : Act ξ}
    (safe : ∀ m a' h', Behaviour.Course behave n a h m a' h' → a'.Safe id h')
    (i : Option (Kind → Prop)) (hi : Kept id i h) : Kept id i (Host.perform behave n a h).2 :=
  Behaviour.perform_preserves (fun _ _ _ hi => hi.tended (.same rfl rfl rfl rfl (Nat.le_refl _)))
    (fun _ _ _ safe turn i hi => step faithful safe turn i hi) safe i hi

theorem Kept.run (faithful : behave.Faithful) {n : Nat} (p : Program ξ σ α)
    (safe : ∀ a h', (a, h') ∈ p.acts (Host.perform behave n) h →
      ∀ m a' h'', Behaviour.Course behave n a h' m a' h'' → a'.Safe id h'')
    (i : Option (Kind → Prop)) (hi : Kept id i h) :
    Kept id i (p.run (Host.perform behave n) h).2 ∧
      ∀ a h', (a, h') ∈ p.acts (Host.perform behave n) h → Kept id i h' :=
  p.run_preserves (fun _ _ hi => hi.tended (.same rfl rfl rfl rfl (Nat.le_refl _)))
    (fun a h' hm => perform faithful (safe a h' hm) i) hi

theorem Kept.turn (faithful : behave.Faithful) {n : Nat} {a : Act ξ} {t : Turn ξ σ}
    (safe : ∀ m a' h', Behaviour.Course behave (n + 1) a h m a' h' → a'.Safe id h')
    (ht : t ∈ a.turns (behave.guests n) h) (i : Option (Kind → Prop)) (hb : Kept id i t.before) :
    Kept id i t.after := by
  refine reacted ht (fun x hx hb => ?_) hb
  rw [Behaviour.after_eq_run ht hx]
  exact (run faithful _ (fun _ _ hm _ _ _ hc => safe _ _ _ (.nest ht hx hm hc)) i hb).left

theorem wired_attach (path : Option String) (saves : Bool) (b : BusId) :
    (h.attach path saves (some b) none).2.Wired (h.attach path saves (some b) none).1 := by
  have hp : (h.attach path saves (some b) none).2.plugin (h.attach path saves (some b) none).1 =
      { configPath := path, bus := b, directory := ⟨h.fresh⟩, savesDefault := saves
        template := .compile none, bindings := {}, subscriptions := [] } := by
    have hi := plugin_setPlugin (h.openDirectory (some b)).2 ⟨h.fresh + 1⟩ ⟨h.fresh + 1⟩
    exact (hi _).trans (if_pos rfl)
  have hd : (h.attach path saves (some b) none).2.directoryOf (h.attach path saves (some b) none).1 =
      { bus := b, entries := [] } := by
    rw [directoryOf, hp]
    exact (directory_setDirectory h ⟨h.fresh⟩ ⟨h.fresh⟩ _).trans (if_pos rfl)
  constructor
  case plugin => exact Nat.lt_succ_self _
  case directory =>
    rw [hp]
    exact Nat.lt_succ_of_lt (Nat.lt_succ_self _)
  case bus => rw [hd, hp]
  case named =>
    rw [hd]
    intro q hq
    cases hq

theorem Wired.closing (hw : h.Wired id) (settings : Option Settings) :
    ((Act.enable id settings).closing h).InStep id fun _ => True := by
  have ⟨hok, hb⟩ := hw.refresh
  have refreshed : Changes (Act.enable id none).Finishes h (h.refresh id).2 := .refresh .refl .bind
  have listening : Changes (Act.enable id none).Finishes (h.refresh id).2 ((h.refresh id).2.listen id) :=
    .listen .refl .hold fun _ _ _ _ => .subscribe
  have tr : Tended id h (h.refresh id).2 := .finishing refreshed
  have tl : Tended id (h.refresh id).2 ((h.refresh id).2.listen id) := .finishing listening
  have he : (Act.enable id settings).closing h = (h.refresh id).2.listen id := by
    simp only [Act.closing]
    split
    case h_1 he => simp [he] at hok
    case h_2 he => rw [he]
  rw [he]
  constructor
  case wired => exact (hw.tended tr).tended tl
  case hears =>
    intro topic ht
    rw [tl.bus]
    exact hears_listen ht
  case bound => exact fun k _ => (hb k).tended tl

theorem Wired.enable (faithful : behave.Faithful) {n : Nat} {settings : Option Settings} (hw : h.Wired id)
    (safe : ∀ m a h', Behaviour.Course behave n (.enable id settings) h m a h' → a.Safe id h')
    (enabled : (Host.perform behave n (.enable id settings) h).1 = .ok ()) :
    (Host.perform behave n (.enable id settings) h).2.InStep id fun _ => True := by
  cases n with
  | zero => cases enabled
  | succ n =>
    have ⟨em, h₁, he⟩ := Act.opening_of_enable_ok enabled
    have opened : h₁.Wired id := by
      have ht := Tended.opening (a := .enable id settings) hw trivial not_false
      rw [he] at ht
      exact hw.tended ht
    have delivered : Kept id none (em.carryOut (behave.guests n) h₁).2 := by
      apply Kept.emission (i := none) opened
      intro t ht
      have ht : t ∈ (Act.enable id settings).turns (behave.guests n) h := by
        rwa [Act.turns, he]
      exact Kept.turn faithful safe ht
    rw [Behaviour.perform_succ, Act.carryOut_snd, Act.outcome, he]
    exact Wired.closing delivered settings

end Host

namespace Behaviour

-- Once a plugin has been put to work, its bindings are the active providers of its directory, and so they
-- are whenever a change has been announced to the end: whatever guests change in turn while they are
-- notified, however deep they nest it, and whichever of them fail.
theorem bindings_inSync {behave : Behaviour ξ σ} (faithful : behave.Faithful) {id : PluginId}
    {settings : Option Settings} {h : Host ξ σ} (wired : h.Wired id) {n m : Nat}
    (enabled : (Host.perform behave n (.enable id settings) h).1 = .ok ())
    (enabling : ∀ l a h', Course behave n (.enable id settings) h l a h' → a.Safe id h')
    (p : Program ξ σ α)
    (running : ∀ a h',
      (a, h') ∈ p.acts (Host.perform behave m) (Host.perform behave n (.enable id settings) h).2 →
      ∀ l a' h'', Course behave m a h' l a' h'' → a'.Safe id h'') :
    (Host.perform behave n (.enable id settings) h).2.InSync id ∧
      (p.run (Host.perform behave m) (Host.perform behave n (.enable id settings) h).2).2.InSync id ∧
      ∀ a h', (a, h') ∈ p.acts (Host.perform behave m) (Host.perform behave n (.enable id settings) h).2 →
        h'.InSync id := by
  have begun := wired.enable faithful enabling enabled
  have ⟨ended, between⟩ := Host.Kept.run faithful p running (some fun _ => True) begun
  exact ⟨begun.inSync, Host.InStep.inSync ended, fun a h' hm => Host.InStep.inSync (between a h' hm)⟩

def spoiler : Behaviour Unit Unit := fun _ e =>
  if e.envelope.topic = Directory.registered then do
    let _ ← Program.perform (.unregister ⟨1⟩ .accounts ⟨4⟩)
    return { payload := e.payload, failure := some (.raised "spoiled") }
  else return { payload := e.payload, failure := none }

def spoiled : Host Unit Unit :=
  let h := ((Host.new .bare {} ()).attach none false none none).2
  let h := (h.introduce (.chatMeta "meta" (fun _ => .ok none) fun _ => .ok none)).2
  let h := (h.introduce (.accounts fun _ => .ok none)).2
  (h.subscribe ⟨0⟩ Directory.registered .lowest (.guest ())).2

def registerBoth : Program Unit Unit Unit := do
  let _ ← Program.perform (.register ⟨1⟩ .chatMeta ⟨3⟩)
  let _ ← Program.perform (.register ⟨1⟩ .accounts ⟨4⟩)

theorem spoiler_faithful : spoiler.Faithful := by
  intro x e performing h _
  simp only [spoiler]
  split <;> rfl

theorem spoiler_course {n m : Nat} {a a' : Act Unit} {h h' : Host Unit Unit}
    (hc : Course spoiler n a h m a' h') :
    (a' = a ∧ h' = h) ∨ a' = .unregister ⟨1⟩ .accounts ⟨4⟩ := by
  induction hc with
  | refl => exact .inl ⟨rfl, rfl⟩
  | nest ht hx hm _ ih =>
    simp only [spoiler] at hm
    split at hm
    case isTrue =>
      cases hm with
      | head => exact ih.elim (fun he => .inr he.left) .inr
      | tail _ hm => cases hm
    case isFalse => cases hm

theorem bindings_inSync_spoiled :
    spoiled.Wired ⟨2⟩ ∧
      (Host.perform spoiler 3 (.enable ⟨2⟩ (some .default)) spoiled).1 = .ok () ∧
      (registerBoth.run (Host.perform spoiler 3)
        (Host.perform spoiler 3 (.enable ⟨2⟩ (some .default)) spoiled).2).2.InSync ⟨2⟩ := by
  have wired : spoiled.Wired ⟨2⟩ := ⟨by decide, by decide, rfl, fun _ hq => nomatch hq⟩
  have enabled : (Host.perform spoiler 3 (.enable ⟨2⟩ (some .default)) spoiled).1 = .ok () := rfl
  refine ⟨wired, enabled, ?_⟩
  apply And.left
  apply And.right
  apply bindings_inSync (m := 3) spoiler_faithful wired enabled
  case enabling =>
    intro l a h' hc
    cases spoiler_course hc with
    | inl he => rw [he.left]; trivial
    | inr he => rw [he]; trivial
  case running =>
    intro a h' hm l a' h'' hc
    cases spoiler_course hc with
    | inl he =>
      rw [he.left, he.right]
      cases hm with
      | head => exact fun _ => ⟨by decide, _, rfl⟩
      | tail _ hm =>
        cases hm with
        | head => trivial
        | tail _ hm => cases hm
    | inr he => rw [he]; trivial

end Behaviour
end Chatline
