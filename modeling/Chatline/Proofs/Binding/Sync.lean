import Chatline.Proofs.Binding.Tended
import Chatline.Proofs.Dispatch.Course

namespace Chatline

variable {ξ σ α : Type}

namespace Host

-- A plugin hears of changes to its directory, and what is bound for some kinds is as it should be. The
-- other kinds are those whose last change the plugin has not been told of yet.
structure InStep (h : Host ξ σ) (id : PluginId) (K : Kind → Prop) : Prop where
  wired : h.Wired id
  hears : ∀ topic, topic = Directory.registered ∨ topic = Directory.unregistered →
    h.Hears id (h.plugin id).bus topic
  bound : ∀ k, K k → h.Bound id k

def InSync (h : Host ξ σ) (id : PluginId) : Prop :=
  (h.plugin id).bindings = {
    chatMeta         := h.active (h.plugin id).directory .chatMeta
    accounts         := h.active (h.plugin id).directory .accounts
    verifierPrefixes := h.active (h.plugin id).directory .verifierPrefixes }

variable {id : PluginId} {h h' : Host ξ σ} {K : Kind → Prop} {k : Kind}

theorem InStep.inSync (hs : h.InStep id fun _ => True) : h.InSync id := by
  have hm := hs.bound .chatMeta trivial _ rfl
  have ha := hs.bound .accounts trivial _ rfl
  have hv := hs.bound .verifierPrefixes trivial _ rfl
  simp only [InSync, active]
  rw [directoryOf] at hm ha hv
  rw [← hm, ← ha, ← hv]

theorem InStep.tended (hs : h.InStep id K) (ht : Tended id h h') : h'.InStep id K where
  wired := hs.wired.tended ht
  hears := fun topic he => by
    rw [ht.bus]
    exact ht.hears _ _ (hs.hears topic he)
  bound := fun k hk => (hs.bound k hk).tended ht

theorem directoryOf_setDirectory (x : Directory) :
    (h.setDirectory (h.plugin id).directory x).directoryOf id = x := by
  have he := directory_setDirectory h (h.plugin id).directory (h.plugin id).directory x
  rwa [if_pos rfl] at he

theorem Wired.change {x : Directory} (hw : h.Wired id) (hb : x.bus = (h.directoryOf id).bus)
    (hn : ∀ q ∈ x.providers .chatMeta, h.Named q) :
    (h.setDirectory (h.plugin id).directory x).Wired id where
  plugin    := hw.plugin
  directory := hw.directory
  bus       := by
    rw [directoryOf_setDirectory, hb]
    exact hw.bus
  named     := by
    rw [directoryOf_setDirectory]
    exact hn

theorem InStep.change {x : Directory} (hs : h.InStep id K) (hb : x.bus = (h.directoryOf id).bus)
    (hn : ∀ q ∈ x.providers .chatMeta, h.Named q)
    (hk : ∀ k', k' ≠ k → x.providers k' = (h.directoryOf id).providers k') :
    (h.setDirectory (h.plugin id).directory x).InStep id fun k' => K k' ∧ k' ≠ k where
  wired := hs.wired.change hb hn
  hears := hs.hears
  bound := by
    intro k' ⟨hK, hne⟩ q hq
    have ha : x.active k' = (h.directoryOf id).active k' := by
      rw [Directory.active, hk k' hne, Directory.active]
    rw [directoryOf_setDirectory, ha]
    exact hs.bound k' hK q hq

theorem bound_setPlugin {p : Plugin} (hd : p.directory = (h.plugin id).directory) {q : Option ProviderId}
    (hp : p.bindings.slot? k = some q) (hq : q = h.active (h.plugin id).directory k) :
    (h.setPlugin id p).Bound id k := by
  intro q' hq'
  have hi := plugin_setPlugin h id id p
  rw [if_pos rfl] at hi
  rw [hi, hp] at hq'
  rw [directoryOf, hi, hd, ← Option.some.inj hq', hq]
  rfl

def activeName (h : Host ξ σ) (id : PluginId) : Except Failure (Option String) :=
  (h.active (h.plugin id).directory .chatMeta).mapM fun q => (h.provider q).name?

theorem Wired.activeName (hw : h.Wired id) : ∃ name, h.activeName id = .ok name := by
  rw [Host.activeName]
  cases hq : h.active (h.plugin id).directory .chatMeta with
  | none   => exact ⟨none, rfl⟩
  | some q =>
    have ⟨_, name, hn⟩ := hw.named q (List.mem_of_getLast? hq)
    exact ⟨some name, congrArg (some <$> ·) hn⟩

theorem Wired.refreshChatMeta (hw : h.Wired id) :
    (h.refreshChatMeta id).1 = .ok () ∧ (h.refreshChatMeta id).2.Bound id .chatMeta := by
  have ⟨name, hn⟩ := hw.activeName
  rw [Host.activeName] at hn
  simp only [Host.refreshChatMeta]
  split
  case isTrue he => exact ⟨rfl, fun q hq => Option.some.inj hq ▸ he.symm⟩
  case isFalse =>
    rw [hn]
    exact ⟨rfl, bound_setPlugin (k := .chatMeta) rfl rfl rfl⟩

theorem refreshVerifiers_bound (hk : k = .accounts ∨ k = .verifierPrefixes) :
    (h.refreshVerifiers id).Bound id k := by
  cases hk with
  | inl he =>
    subst he
    exact bound_setPlugin (k := .accounts) rfl rfl rfl
  | inr he =>
    subst he
    exact bound_setPlugin (k := .verifierPrefixes) rfl rfl rfl

theorem Wired.refresh (hw : h.Wired id) :
    (h.refresh id).1 = .ok () ∧ ∀ k, (h.refresh id).2.Bound id k := by
  have ⟨hok, hm⟩ := hw.refreshChatMeta
  have he : h.refresh id = (.ok (), (h.refreshChatMeta id).2.refreshVerifiers id) := by
    unfold Host.refresh
    split
    case h_1 he => simp [he] at hok
    case h_2 he => rw [he]
  rw [he]
  refine ⟨rfl, fun k => ?_⟩
  cases k with
  | chatMeta         =>
    have bound : Changes (Act.enable id none).Finishes _ ((h.refreshChatMeta id).2.refreshVerifiers id) :=
      .refreshVerifiers .refl .bind
    exact hm.tended (.finishing bound)
  | accounts         => exact refreshVerifiers_bound (.inl rfl)
  | verifierPrefixes => exact refreshVerifiers_bound (.inr rfl)
  | other title      => exact fun _ hq => nomatch hq

theorem Wired.rebind (hw : h.Wired id) (k : Kind) : (h.rebind id (some k)).2.Bound id k := by
  cases k with
  | chatMeta         => exact hw.refreshChatMeta.right
  | accounts         => exact refreshVerifiers_bound (.inl rfl)
  | verifierPrefixes => exact refreshVerifiers_bound (.inr rfl)
  | other title      => exact fun _ hq => nomatch hq

theorem hears_subscribe (b : BusId) (topic : String) (priority : Priority) :
    (h.subscribe b topic priority (.rebinder id)).2.Hears id b topic := by
  refine ⟨{ serial := (h.bus b).subscribed, topic, priority, observer := .rebinder id }, ?_, rfl⟩
  rw [bus_subscribe, if_pos rfl]
  exact Bus.mem_live.mpr ⟨Bus.mem_subscribe.mpr (.inl rfl), rfl⟩

theorem hears_listen {topic : String}
    (ht : topic = Directory.registered ∨ topic = Directory.unregistered) :
    (h.listen id).Hears id (h.plugin id).bus topic := by
  let h₁ := (h.subscribe (h.plugin id).bus chatTopic .lowest (.installer id)).2
  let h₂ := (h₁.subscribe (h.plugin id).bus chatTopic .highest (.resolver id)).2
  let h₃ := (h₂.subscribe (h.plugin id).bus Directory.registered .normal (.rebinder id)).2
  let h₄ := (h₃.subscribe (h.plugin id).bus Directory.unregistered .normal (.rebinder id)).2
  have heard : h₄.Hears id (h.plugin id).bus topic := by
    cases ht with
    | inl he =>
      subst he
      have subscribed : Changes (Act.enable id none).Finishes h₃ h₄ := .subscribe .refl (.subscribe rfl)
      exact (Tended.finishing subscribed).hears _ _ (hears_subscribe _ _ _)
    | inr he =>
      subst he
      exact hears_subscribe _ _ _
  have held : Changes (Act.enable id none).Finishes h₄ (h.listen id) := .hold .refl .hold
  exact (Tended.finishing held).hears _ _ heard

theorem react_rebinder (guests : Guests ξ σ) (e : Event) :
    (h.react guests (.rebinder id) e).2 = (h.rebind id e.payload.kind?).2 := by
  simp only [react]
  split
  case h_1 he => rw [he]
  case h_2 he => rw [he]

theorem react_kind? {guests : Guests ξ σ} {observer : Observer ξ} (e : Event)
    (ho : ∀ x, observer ≠ .guest x) : (h.react guests observer e).1.payload.kind? = e.payload.kind? := by
  cases observer with
  | installer id' =>
    simp only [Host.react, install]
    split <;> rfl
  | resolver id' =>
    simp only [Host.react, resolve]
    split
    case h_1 => rfl
    case h_2 => split <;> rfl
  | rebinder id' =>
    simp only [Host.react]
    split <;> rfl
  | guest x => exact absurd rfl (ho x)

theorem Tended.noteFailure (b : BusId) (e : Envelope) (failure : Option Failure) :
    Tended id h (h.noteFailure b e failure) := by
  simp only [Host.noteFailure]
  split
  case h_1 => exact refl
  case h_2 => exact note _

variable {guests : Guests ξ σ} {b : BusId} {e : Envelope} {ss : List (Subscription (Observer ξ))}
  {p : Payload}

theorem InStep.rebound {s : Subscription (Observer ξ)} (ho : s.observer = .rebinder id) (hk : p.kind? = some k)
    (before : h.InStep id fun k' => K k' ∧ k' ≠ k)
    (after : (h.turn guests b e s p).after.InStep id fun k' => K k' ∧ k' ≠ k) :
    (h.turn guests b e s p).after.InStep id K where
  wired := after.wired
  hears := after.hears
  bound := by
    have before := before.tended (.note (.delivered b e s.serial))
    have he : (h.turn guests b e s p).after = ((h.note (.delivered b e s.serial)).rebind id (some k)).2 := by
      rw [← hk, ← react_rebinder guests { envelope := e, payload := p }, ← ho]
      rfl
    intro k' hK
    by_cases hk' : k' = k
    case pos =>
      rw [hk', he]
      exact before.wired.rebind k
    case neg => exact after.bound k' ⟨hK, hk'⟩

-- An announcement that reaches the plugin brings it in step for the kind that the announcement is about,
-- whatever has happened by the time of its turn.
theorem deliver_rebinds (hk : p.kind? = some k) (hm : ∃ s ∈ ss, s.observer = .rebinder id)
    (turn : ∀ t ∈ turns guests b e ss p h, ∀ J, t.before.InStep id J → t.after.InStep id J)
    (kind : ∀ t ∈ turns guests b e ss p h, t.reaction.payload.kind? = t.event.payload.kind?)
    (hs : h.InStep id fun k' => K k' ∧ k' ≠ k) : (deliver guests b e ss p h).2.InStep id K := by
  induction ss generalizing p h with
  | nil =>
    have ⟨s, hm, _⟩ := hm
    cases hm
  | cons s ss ih =>
    have before := hs.tended (.note (.delivered b e s.serial))
    have after := turn _ (.head _) _ before
    have noted : Tended id (h.turn guests b e s p).after _ :=
      .noteFailure b e (h.turn guests b e s p).reaction.failure
    rw [deliver_cons]
    by_cases ho : s.observer = .rebinder id
    case pos =>
      have hK : (h.turn guests b e s p).after.InStep id K := .rebound ho hk hs after
      apply And.left
      apply deliver_preserves (P := fun h => h.InStep id K)
      case delivered => exact fun _ _ hs => hs.tended (.note _)
      case failed => exact fun _ _ hs => hs.tended (.note _)
      case turn => exact fun t ht => turn t (.tail _ ht) K
      case hP => exact hK.tended noted
    case neg =>
      have hm : ∃ s ∈ ss, s.observer = .rebinder id := by
        have ⟨s', hm, ho'⟩ := hm
        cases hm with
        | head => exact absurd ho' ho
        | tail _ hm => exact ⟨s', hm, ho'⟩
      apply ih _ hm (fun t ht => turn t (.tail _ ht)) (fun t ht => kind t (.tail _ ht)) (after.tended noted)
      rw [kind _ (.head _)]
      exact hk

end Host
end Chatline
