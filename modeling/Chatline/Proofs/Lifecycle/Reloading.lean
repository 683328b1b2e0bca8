import Chatline.Proofs.Dispatch.Delivery
import Chatline.Proofs.Lifecycle.Account
import Chatline.Proofs.Lifecycle.Undisturbed
import Chatline.Proofs.Passing.Readiness
import Chatline.Proofs.Settings.Loading

namespace Chatline

variable {ξ σ : Type}

def Emission.reloaded (bus : BusId) (t : Template) : Emission :=
  { bus, topic := Host.reloadedTopic, source := Host.reloadedSource, payload := .ofTemplate t }

namespace Host

variable {id : PluginId} {settings : Option Settings} {s : Settings} {f : Failure} {h h' h₁ h₂ : Host ξ σ}
         {guests : Guests ξ σ}

def intended (h : Host ξ σ) (id : PluginId) (settings : Option Settings) : Except Failure Settings :=
  match h.provideDefault id with
  | (.error f, _) => .error f
  | (.ok _, h)    => (h.chosen id settings).1

structure Untouched (h h' : Host ξ σ) : Prop where
  plugins : h'.plugins = h.plugins
  buses   : h'.buses = h.buses

def Sourced (h : Host ξ σ) (id : PluginId) : Prop :=
  ∀ q, h.active (h.plugin id).directory .chatMeta = some q → ∃ name, (h.provider q).name? = .ok name

def announcement (h : Host ξ σ) (id : PluginId) : Envelope :=
  { topic := reloadedTopic, source := reloadedSource, sequence := (h.bus (h.plugin id).bus).sequence + 1 }

-- The format of some settings has been put in force, and its announcement has got the next number on the bus of the
-- plugin. Otherwise nothing has been done about the plugin and the buses.
structure Heralded (id : PluginId) (s : Settings) (h k : Host ξ σ) : Prop where
  plugin : k.plugin id = { h.plugin id with template := .compile s.format }
  bus    : k.bus (h.plugin id).bus =
           let es := (h.bus (h.plugin id).bus).history ++ [h.announcement id]
           { h.bus (h.plugin id).bus with
             sequence := (h.announcement id).sequence, history := es.drop (es.length - 1000) }
  others : ∀ b, b ≠ (h.plugin id).bus → k.bus b = h.bus b
  log    : ∃ rs, k.log = h.log ++ rs ++ [.emitted (h.plugin id).bus (h.announcement id)] ∧
           ∀ r ∈ rs, r.ofBus = false

-- The format of some settings has been put in force and announced, just once, to those who are subscribed to such
-- announcements, with the template that is in force.
structure Announced (guests : Guests ξ σ) (id : PluginId) (s : Settings) (h h₂ : Host ξ σ) : Prop where
  told    : ∃ k ts p, Heralded id s h k ∧
            ts.map (·.subscription) = (h.bus (h.plugin id).bus).live reloadedTopic ∧
            Turn.InTurn guests (h.plugin id).bus (h.announcement id) ts (.ofTemplate (.compile s.format)) k p h₂
  once    : ∃ rs, h₂.log = h.log ++ rs ∧ rs.count (.emitted (h.plugin id).bus (h.announcement id)) = 1
  inForce : (h₂.plugin id).template = .compile s.format
  bus     : (h₂.plugin id).bus = (h.plugin id).bus

def enlisted (id : PluginId) (serial : Nat) : List (Subscription (Observer ξ)) :=
  [{ serial, topic := chatTopic, priority := .lowest, observer := .installer id },
   { serial := serial + 1, topic := chatTopic, priority := .highest, observer := .resolver id },
   { serial := serial + 2, topic := Directory.registered, priority := .normal, observer := .rebinder id },
   { serial := serial + 3, topic := Directory.unregistered, priority := .normal, observer := .rebinder id }]

structure Joined (id : PluginId) (h h' : Host ξ σ) : Prop where
  template      : (h'.plugin id).template = (h.plugin id).template
  subscriptions : (h'.bus (h.plugin id).bus).subscriptions.Perm
                  ((h.bus (h.plugin id).bus).subscriptions ++ enlisted id (h.bus (h.plugin id).bus).subscribed)
  others        : ∀ b, b ≠ (h.plugin id).bus → h'.bus b = h.bus b
  held          : (h'.plugin id).subscriptions =
                  (enlisted id (h.bus (h.plugin id).bus).subscribed : List (Subscription (Observer ξ))).map
                    fun s => ⟨(h.plugin id).bus, s.serial⟩
  events        : ∀ b, (h'.bus b).sequence = (h.bus b).sequence ∧ (h'.bus b).history = (h.bus b).history
  quiet         : ∃ rs, h'.log = h.log ++ rs ∧ ∀ r ∈ rs, ∀ b e, r ≠ .emitted b e

structure Prepared (h h' : Host ξ σ) : Prop where
  aside   : Aside h h'
  plugins : h'.plugins = h.plugins
  fresh   : h'.fresh = h.fresh

namespace Prepared

theorem trans (h₁₂ : Prepared h h₁) (h₂₃ : Prepared h₁ h₂) : Prepared h h₂ where
  aside   := h₁₂.aside.trans h₂₃.aside
  plugins := h₂₃.plugins.trans h₁₂.plugins
  fresh   := h₂₃.fresh.trans h₁₂.fresh

theorem untouched (hp : Prepared h h') : Untouched h h' :=
  ⟨hp.plugins, hp.aside.buses⟩

theorem provideDefault (h : Host ξ σ) (id : PluginId) : Prepared h (h.provideDefault id).2 where
  aside   :=
    have provided : Changes (.surround = ·) h (h.provideDefault id).2 := .provideDefault .refl rfl id
    .changes provided nofun nofun
  plugins := by
    simp only [Host.provideDefault, saveDefault]
    repeat' split
    all_goals rfl
  fresh   := by
    simp only [Host.provideDefault, saveDefault]
    repeat' split
    all_goals rfl

theorem chosen (h : Host ξ σ) (id : PluginId) (settings : Option Settings) :
    Prepared h (h.chosen id settings).2 := by
  cases settings with
  | some s => exact ⟨.refl, rfl, rfl⟩
  | none   =>
    refine ⟨.noteAll fun r hm => ?_, rfl, rfl⟩
    exact (Record.plain_of_warning (Settings.level_of_mem_load _ _ _ r hm)).left

end Prepared

theorem settle_eq (h : Host ξ σ) (id : PluginId) (settings : Option Settings) :
    h.settle id settings =
      match h.chosen id settings with
      | (.error f, h) => (.error f, h)
      | (.ok s, h)    => (.ok (.compile s.format), (h.reload id s.format).2) := by
  cases settings with
  | some s => rfl
  | none   =>
    simp only [settle, chosen]
    cases h.loadSettings (h.plugin id).configPath with
    | mk loaded h' => cases loaded <;> rfl

theorem aside_reload (h : Host ξ σ) (id : PluginId) (format : Option String) : Aside h (h.reload id format).2 :=
  have loaded : Changes (· = .load id) h (h.reload id format).2 := .load format .refl rfl
  .changes loaded nofun nofun

theorem bus_listen_self (h : Host ξ σ) (id : PluginId) :
    (h.listen id).bus (h.plugin id).bus =
      ((((h.bus (h.plugin id).bus).subscribe chatTopic .lowest (.installer id)).subscribe
        chatTopic .highest (.resolver id)).subscribe
        Directory.registered .normal (.rebinder id)).subscribe
        Directory.unregistered .normal (.rebinder id) := by
  rw [bus_listen]
  simp only [bus_subscribe, if_true]

theorem bus_listen_of_ne (h : Host ξ σ) {id : PluginId} {b : BusId} (hn : b ≠ (h.plugin id).bus) :
    (h.listen id).bus b = h.bus b := by
  rw [bus_listen]
  simp only [bus_subscribe, if_neg hn]

theorem perm_listen (x : Bus (Observer ξ)) (id : PluginId) :
    ((((x.subscribe chatTopic .lowest (.installer id)).subscribe chatTopic .highest (.resolver id)).subscribe
      Directory.registered .normal (.rebinder id)).subscribe
      Directory.unregistered .normal (.rebinder id)).subscriptions.Perm
        (x.subscriptions ++ enlisted id x.subscribed) := by
  let x₁ := x.subscribe chatTopic .lowest (.installer id)
  let x₂ := x₁.subscribe chatTopic .highest (.resolver id)
  let x₃ := x₂.subscribe Directory.registered .normal (.rebinder id)
  have h₁ : x₁.subscriptions.Perm _ := Bus.perm_insert _ _
  have h₂ : x₂.subscriptions.Perm _ := (Bus.perm_insert _ _).trans (h₁.append_right _)
  have h₃ : x₃.subscriptions.Perm _ := (Bus.perm_insert _ _).trans (h₂.append_right _)
  have h₄ := (Bus.perm_insert { serial := x₃.subscribed, topic := Directory.unregistered, priority := .normal,
                                observer := .rebinder id } _).trans (h₃.append_right _)
  simp only [List.append_assoc, List.cons_append, List.nil_append] at h₄
  exact h₄

theorem joined_listen (h : Host ξ σ) (id : PluginId) : Joined id h (h.listen id) := by
  constructor
  case template =>
    rw [listen, plugin_setPlugin, if_pos rfl]
    rfl
  case subscriptions =>
    rw [bus_listen_self]
    exact perm_listen _ id
  case others => exact fun b hn => bus_listen_of_ne h hn
  case held =>
    simp only [listen]
    rw [plugin_setPlugin, if_pos rfl]
    simp only [serial_subscribe, subscribed_subscribe, if_true]
    rfl
  case events =>
    intro b
    by_cases hb : b = (h.plugin id).bus
    case pos =>
      rw [hb, bus_listen_self]
      exact ⟨rfl, rfl⟩
    case neg =>
      rw [bus_listen_of_ne h hb]
      exact ⟨rfl, rfl⟩
  case quiet =>
    have four (a b c d : Record) : h.log ++ [a] ++ [b] ++ [c] ++ [d] = h.log ++ [a, b, c, d] := by simp
    exact ⟨_, four (.subscribed _ _ _) (.subscribed _ _ _) (.subscribed _ _ _) (.subscribed _ _ _), by simp⟩

theorem Joined.aside (hj : Joined id h₁ h₂) (ha : Aside h h₁)
    (template : (h₁.plugin id).template = (h.plugin id).template) (bus : (h₁.plugin id).bus = (h.plugin id).bus) :
    Joined id h h₂ := by
  have same (b : BusId) : h₁.bus b = h.bus b := bus_congr ha.buses b
  constructor
  case template      => exact hj.template.trans template
  case subscriptions =>
    have hs := hj.subscriptions
    rwa [same, bus] at hs
  case others        =>
    intro b hn
    rw [hj.others b (bus ▸ hn), same]
  case held          =>
    have hh := hj.held
    rwa [same, bus] at hh
  case events        =>
    intro b
    rw [← same]
    exact hj.events b
  case quiet         =>
    have ⟨rs, hl, hr⟩ := ha.log
    have ⟨rs', hl', hr'⟩ := hj.quiet
    refine ⟨rs ++ rs', by rw [hl', hl, List.append_assoc], fun r hm b e he => ?_⟩
    cases List.mem_append.mp hm with
    | inl hm =>
      have plain := hr r hm
      rw [he] at plain
      cases plain
    | inr hm => exact hr' r hm b e he

theorem refresh_of_sourced (hs : h.Sourced id) : (h.refresh id).1 = .ok () := by
  have named : ∃ name, (h.active (h.plugin id).directory .chatMeta).mapM (fun q => (h.provider q).name?) =
      .ok name := by
    cases ha : h.active (h.plugin id).directory .chatMeta with
    | none   => exact ⟨none, rfl⟩
    | some q =>
      have ⟨name, hn⟩ := hs q ha
      exact ⟨some name, by rw [Option.mapM_some, hn]; rfl⟩
  have ⟨name, hn⟩ := named
  have bound : (h.refreshChatMeta id).1 = .ok () := by
    simp only [refreshChatMeta, hn]
    split <;> rfl
  simp only [refresh]
  split
  case h_1 he =>
    rw [he] at bound
    cases bound
  case h_2 => rfl

theorem reloadSettings_error (hc : h.chosen id settings = (.error f, h₁)) :
    h.reloadSettings guests id settings = (.error f, h₁) := by
  simp only [reloadSettings, settle_eq, hc]

theorem reloadSettings_ok (hc : h.chosen id settings = (.ok s, h₁)) :
    h.reloadSettings guests id settings =
      (.ok (.compile s.format),
        ((Emission.reloaded (h₁.plugin id).bus (.compile s.format)).carryOut guests (h₁.reload id s.format).2).2) := by
  simp only [reloadSettings, settle_eq, hc]
  rw [plugin_reload]
  rfl

theorem reloading_ok (hc : h.chosen id settings = (.ok s, h₁)) :
    Act.reloading h id settings =
      (some (.reloaded (h₁.plugin id).bus (.compile s.format)), (h₁.reload id s.format).2) := by
  simp only [Act.reloading, settle_eq, hc]
  rw [plugin_reload]
  rfl

section Announcing

variable (aside : Aside h h₁) (put : h₁.plugin id = { h.plugin id with template := .compile s.format })

include aside

theorem envelope_reloaded (id : PluginId) (t : Template) :
    (Emission.reloaded (h.plugin id).bus t).envelope h₁ = h.announcement id := by
  simp only [Emission.envelope, Emission.reloaded, Bus.number, bus_congr aside.buses, announcement]

include put

theorem heralded (t : Template) : Heralded id s h ((Emission.reloaded (h.plugin id).bus t).numbered h₁) where
  plugin := put
  bus    := by
    rw [Emission.bus_numbered]
    simp only [Emission.reloaded, if_true, Bus.number, bus_congr aside.buses]
    rfl
  others := fun b hb => (Emission.bus_numbered _ h₁ b).trans ((if_neg hb).trans (bus_congr aside.buses b))
  log    := by
    obtain ⟨rs, hl, hr⟩ := aside.log
    exact ⟨rs, by rw [Emission.numbered, envelope_reloaded aside id, ← hl]; rfl, hr⟩

theorem announced_of_put (attached : id.number < h₁.fresh)
    (turn : ∀ t ∈ (Emission.reloaded (h.plugin id).bus (.compile s.format)).turns guests h₁,
      Later t.before t.after ∧ ∀ x, t.subscription.observer = .guest x → Undisturbed id t.before t.after) :
    Announced guests id s h ((Emission.reloaded (h.plugin id).bus (.compile s.format)).carryOut guests h₁).2 := by
  let sending : Act ξ := .emit (h.plugin id).bus reloadedTopic reloadedSource (.ofTemplate (.compile s.format))
  have told : Undisturbed id h₁ ((Emission.reloaded (h.plugin id).bus (.compile s.format)).carryOut guests h₁).2 :=
    Undisturbed.refl.carryOut (a := sending) trivial fun t ht x hx hu => hu.trans ((turn t ht).right x hx)
  have envelope := envelope_reloaded aside id (.compile s.format)
  constructor
  case told    =>
    have notified := Emission.turns_subscription (.reloaded (h.plugin id).bus (.compile s.format)) guests h₁
    have inTurn := Emission.inTurn (.reloaded (h.plugin id).bus (.compile s.format)) guests h₁
    rw [bus_congr aside.buses] at notified
    rw [envelope] at inTurn
    exact ⟨_, _, _, heralded aside put _, notified, inTurn⟩
  case once    =>
    have ⟨rs, hl, hr⟩ := aside.log
    have ⟨rs', hl', sent⟩ := Emission.logged_once fun t ht => (turn t ht).left
    -- The number of the announcement is new, so it cannot have been sent on the way there.
    have unsent : rs.count (.emitted (h.plugin id).bus (h.announcement id)) = 0 :=
      List.count_eq_zero.mpr fun hm => nomatch hr _ hm
    rw [envelope] at sent
    refine ⟨rs ++ rs', by rw [hl', hl, List.append_assoc], ?_⟩
    rw [List.count_append, unsent, Nat.zero_add]
    exact sent
  case inForce => rw [told.template attached, put]
  case bus     => rw [told.bus attached, put]

end Announcing

theorem announced (prepared : Prepared h h₁) (attached : id.number < h.fresh)
    (turn : ∀ t ∈ (Emission.reloaded (h₁.plugin id).bus (.compile s.format)).turns guests (h₁.reload id s.format).2,
      Later t.before t.after ∧ ∀ x, t.subscription.observer = .guest x → Undisturbed id t.before t.after) :
    Announced guests id s h
      ((Emission.reloaded (h₁.plugin id).bus (.compile s.format)).carryOut guests (h₁.reload id s.format).2).2 := by
  have plugin : h₁.plugin id = h.plugin id := by rw [Host.plugin, Host.plugin, prepared.plugins]
  have put : (h₁.reload id s.format).2.plugin id = { h.plugin id with template := .compile s.format } := by
    rw [plugin_reload, plugin]
  rw [plugin] at turn ⊢
  exact announced_of_put (prepared.aside.trans (aside_reload h₁ id s.format)) put (prepared.fresh ▸ attached) turn

section Enabling

variable {w : Bool} {h₀ : Host ξ σ}

theorem enable_of_unprovided (hp : h.provideDefault id = (.error f, h₀)) :
    h.enable guests id settings = (.error f, h₀) := by
  simp only [enable, hp]

theorem enable_of_unchosen (hp : h.provideDefault id = (.ok w, h₀)) (hc : h₀.chosen id settings = (.error f, h₁)) :
    h.enable guests id settings = (.error f, h₁) := by
  simp only [enable, hp, reloadSettings_error hc]

theorem enable_of_chosen (hp : h.provideDefault id = (.ok w, h₀)) (hc : h₀.chosen id settings = (.ok s, h₁))
    (hk : ((Emission.reloaded (h₁.plugin id).bus (.compile s.format)).carryOut guests (h₁.reload id s.format).2).2 = h₂)
    (bound : (h₂.refresh id).1 = .ok ()) :
    h.enable guests id settings = (.ok (), (h₂.refresh id).2.listen id) := by
  simp only [enable, hp, reloadSettings_ok hc, hk]
  simp only [refresh] at bound ⊢
  cases hm : h₂.refreshChatMeta id with
  | mk result h₃ =>
    rw [hm] at bound
    cases result with
    | error f => cases bound
    | ok      => rfl

theorem opening_enable_of_chosen (hp : h.provideDefault id = (.ok w, h₀)) (hc : h₀.chosen id settings = (.ok s, h₁)) :
    (Act.enable id settings).opening h =
      (some (.reloaded (h₁.plugin id).bus (.compile s.format)), (h₁.reload id s.format).2) := by
  simp only [Act.opening, hp]
  exact reloading_ok hc

end Enabling

section Commanding

variable {args : List String} (reload : args.head?.any (·.map Char.toLower == "reload"))

include reload

theorem command_of_unchosen (hc : h.chosen id none = (.error f, h₁)) :
    h.command guests id args = (.error f, h₁) := by
  simp only [command, reload, if_true, reloadSettings_error hc]

theorem command_of_chosen (hc : h.chosen id none = (.ok s, h₁)) :
    h.command guests id args =
      (.ok { handled := true, messages := ["Reloaded successfully."] },
        ((Emission.reloaded (h₁.plugin id).bus (.compile s.format)).carryOut guests (h₁.reload id s.format).2).2) := by
  simp only [command, reload, if_true, reloadSettings_ok hc]

theorem opening_command_of_chosen (hc : h.chosen id none = (.ok s, h₁)) :
    (Act.command id args).opening h =
      (some (.reloaded (h₁.plugin id).bus (.compile s.format)), (h₁.reload id s.format).2) := by
  simp only [Act.opening, reload, if_true]
  exact reloading_ok hc

end Commanding

theorem enable_atomic (attached : id.number < h.fresh)
    (turn : ∀ t ∈ (Act.enable id settings).turns guests h,
      Later t.before t.after ∧ ∀ x, t.subscription.observer = .guest x → Undisturbed id t.before t.after)
    (sourced : ∀ em h₁, (Act.enable id settings).opening h = (some em, h₁) → (em.carryOut guests h₁).2.Sourced id) :
    (∀ f, h.intended id settings = .error f →
      ∃ h', h.enable guests id settings = (.error f, h') ∧ h.Untouched h') ∧
    (∀ s, h.intended id settings = .ok s →
      ∃ h₂ h', h.enable guests id settings = (.ok (), h') ∧ Announced guests id s h h₂ ∧ h₂.Joined id h') := by
  have provided := Prepared.provideDefault h id
  simp only [intended]
  cases hp : h.provideDefault id with
  | mk written h₀ =>
    rw [hp] at provided
    cases written with
    | error f =>
      refine ⟨fun f' he => ⟨h₀, ?_, provided.untouched⟩, nofun⟩
      cases he
      exact enable_of_unprovided hp
    | ok w    =>
      have prepared := provided.trans (.chosen h₀ id settings)
      dsimp only
      cases hc : h₀.chosen id settings with
      | mk loaded h₁ =>
        rw [hc] at prepared
        cases loaded with
        | error f =>
          refine ⟨fun f' he => ⟨h₁, ?_, prepared.untouched⟩, nofun⟩
          cases he
          exact enable_of_unchosen hp hc
        | ok s    =>
          have opened := opening_enable_of_chosen hp hc
          rw [Act.turns_of_opening opened] at turn
          have told := announced prepared attached turn
          have bound := refresh_of_sourced (sourced _ _ opened)
          generalize hk : ((Emission.reloaded (h₁.plugin id).bus (.compile s.format)).carryOut guests
            (h₁.reload id s.format).2).2 = h₂ at told bound
          refine ⟨nofun, fun s' he => ?_⟩
          cases he
          have refreshed : Changes (· = .bind id) h₂ (h₂.refresh id).2 := .refresh .refl rfl
          have altered : Plugin.Altered _ id (h₂.plugin id) _ := refreshed.plugin (.inr nofun)
          exact ⟨h₂, (h₂.refresh id).2.listen id, enable_of_chosen hp hc hk bound, told,
            (joined_listen _ id).aside (.refresh id) (altered.template.resolve_left nofun) altered.bus⟩

theorem command_atomic (attached : id.number < h.fresh) {args : List String}
    (reload : args.head?.any (·.map Char.toLower == "reload"))
    (turn : ∀ t ∈ (Act.command id args).turns guests h,
      Later t.before t.after ∧ ∀ x, t.subscription.observer = .guest x → Undisturbed id t.before t.after) :
    (∀ f, (h.chosen id none).1 = .error f →
      ∃ h', h.command guests id args = (.error f, h') ∧ h.Untouched h') ∧
    (∀ s, (h.chosen id none).1 = .ok s →
      ∃ h', h.command guests id args = (.ok { handled := true, messages := ["Reloaded successfully."] }, h') ∧
        Announced guests id s h h') := by
  have prepared := Prepared.chosen h id none
  cases hc : h.chosen id none with
  | mk loaded h₁ =>
    rw [hc] at prepared
    cases loaded with
    | error f =>
      refine ⟨fun f' he => ⟨h₁, ?_, prepared.untouched⟩, nofun⟩
      cases he
      exact command_of_unchosen reload hc
    | ok s    =>
      rw [Act.turns_of_opening (opening_command_of_chosen reload hc)] at turn
      have told := announced prepared attached turn
      refine ⟨nofun, fun s' he => ?_⟩
      cases he
      exact ⟨_, command_of_chosen reload hc, told⟩

end Host

namespace Act

inductive Seeks (id : PluginId) (h : Host ξ σ) : Act ξ → Except Failure Settings → Prop
  | enable (settings : Option Settings) : Seeks id h (.enable id settings) (h.intended id settings)
  | command {args : List String} (reload : args.head?.any (·.map Char.toLower == "reload")) :
    Seeks id h (.command id args) (h.chosen id none).1

inductive Concludes (id : PluginId) (h : Host ξ σ) : (a : Act ξ) → a.Reply → Host ξ σ → Prop
  | enable {settings : Option Settings} {h' : Host ξ σ} (joined : h.Joined id h') :
    Concludes id h (.enable id settings) () h'
  | command {args : List String} :
    Concludes id h (.command id args) { handled := true, messages := ["Reloaded successfully."] } h

end Act

namespace Behaviour

variable {behave : Behaviour ξ σ} {id : PluginId} {a : Act ξ} {n : Nat} {h : Host ξ σ}

theorem undisturbed_turn {t : Turn ξ σ} {x : ξ} (ht : t ∈ a.turns (behave.guests n) h)
    (hx : t.subscription.observer = .guest x)
    (leaves : ∀ a₁ h₁, (a₁, h₁) ∈ (behave x t.event).acts (Host.perform behave n) t.before →
      ∀ m a' h', Course behave n a₁ h₁ m a' h' → a'.LeavesFormat id) :
    Host.Undisturbed id t.before t.after := by
  rw [after_eq_run ht hx]
  refine (Program.run_preserves (P := Host.Undisturbed id t.before) _ ?_ ?_ .refl).left
  case refine_1 => exact fun _ _ hu => hu.trans (.same rfl (Nat.le_refl _))
  case refine_2 => exact fun a₁ h₁ hm hu => hu.perform (leaves a₁ h₁ hm)

-- Enabling a plugin and telling it to reload either fail before there is anything to be seen of them, or they are
-- carried through: the format is put in force, it is announced once, and a plugin that is being enabled gets its four
-- subscriptions. It makes no difference whether those who are told of it fail, as long as they do not put another
-- format in force themselves.
theorem reload_atomic (attached : id.number < h.fresh) {sought : Except Failure Settings} (seeks : a.Seeks id h sought)
    (leaves : ∀ t ∈ a.turns (behave.guests n) h, ∀ x, t.subscription.observer = .guest x →
      ∀ a₁ h₁, (a₁, h₁) ∈ (behave x t.event).acts (Host.perform behave n) t.before →
        ∀ m a' h', Course behave n a₁ h₁ m a' h' → a'.LeavesFormat id)
    (sourced : ∀ settings em h₁, a = .enable id settings → a.opening h = (some em, h₁) →
      (em.carryOut (behave.guests n) h₁).2.Sourced id) :
    (∀ f, sought = .error f → ∃ h', Host.perform behave (n + 1) a h = (.error f, h') ∧ h.Untouched h') ∧
    (∀ s, sought = .ok s → ∃ h₂ reply h', Host.perform behave (n + 1) a h = (.ok reply, h') ∧
      (h'.plugin id).template = .compile s.format ∧ Host.Announced (behave.guests n) id s h h₂ ∧
        a.Concludes id h₂ reply h') := by
  have turn : ∀ t ∈ a.turns (behave.guests n) h, Host.Later t.before t.after ∧
      ∀ x, t.subscription.observer = .guest x → Host.Undisturbed id t.before t.after :=
    fun t ht => ⟨.turn ht, fun x hx => undisturbed_turn ht hx (leaves t ht x hx)⟩
  cases seeks with
  | enable settings =>
    have ⟨failing, working⟩ := Host.enable_atomic attached turn fun em h₁ => sourced settings em h₁ rfl
    refine ⟨failing, fun s he => ?_⟩
    have ⟨h₂, h', done, told, joined⟩ := working s he
    exact ⟨h₂, (), h', done, joined.template.trans told.inForce, told, .enable joined⟩
  | command reload  =>
    have ⟨failing, working⟩ := Host.command_atomic attached reload turn
    refine ⟨failing, fun s he => ?_⟩
    have ⟨h', done, told⟩ := working s he
    exact ⟨h', _, h', done, told.inForce, told, .command⟩

def sulk : Behaviour Unit Unit :=
  fun _ e => pure { payload := e.payload, failure := some (.raised "no") }

def attachSulking : Program Unit Unit Unit := do
  let _ ← Program.perform (.attach (some "\x00") false none none)
  let _ ← Program.perform (.subscribe ⟨0⟩ Host.reloadedTopic .normal ())

def sulking : Host Unit Unit :=
  (attachSulking.run (Host.perform sulk 2) (.new .bare {} ())).2

theorem reload_atomic_sulking :
    (∃ h' : Host Unit Unit, Host.perform sulk 2 (.command ⟨2⟩ ["Reload"]) sulking = (.error .nulInPath, h') ∧
      sulking.Untouched h') ∧
    ∃ h₂ h' : Host Unit Unit, Host.perform sulk 2 (.enable ⟨2⟩ (some .default)) sulking = (.ok (), h') ∧
      (h'.plugin ⟨2⟩).template = .compile none ∧ h₂.Joined ⟨2⟩ h' ∧
        ∃ rs, h₂.log = sulking.log ++ rs ∧
          rs.count (.emitted ⟨0⟩ ⟨"format:reloaded", "ChatFormatterPlugin", 1⟩) = 1 := by
  have idle {a : Act Unit} : ∀ t ∈ a.turns (sulk.guests 1) sulking, ∀ x, t.subscription.observer = .guest x →
      ∀ a₁ h₁, (a₁, h₁) ∈ (sulk x t.event).acts (Host.perform sulk 1) t.before →
        ∀ m a' h', Course sulk 1 a₁ h₁ m a' h' → a'.LeavesFormat ⟨2⟩ := fun _ _ _ _ _ _ hm => nomatch hm
  have unreadable : (sulking.chosen ⟨2⟩ none).1 = .error .nulInPath := by
    have path : (sulking.plugin ⟨2⟩).configPath = some "\x00" := rfl
    have loaded : (sulking.chosen ⟨2⟩ none).1 =
      (Settings.load sulking.files sulking.environment (sulking.plugin ⟨2⟩).configPath).1 := rfl
    rw [loaded, path]
    exact Settings.load_error_iff.mpr (.path (by decide))
  constructor
  case left  =>
    exact (reload_atomic (by decide) (.command (by decide +kernel)) idle fun _ _ _ ha => nomatch ha).left _ unreadable
  case right =>
    have unsourced : ∀ settings em h₁, (.enable ⟨2⟩ (some .default) : Act Unit) = .enable ⟨2⟩ settings →
        Act.opening (.enable ⟨2⟩ (some .default)) sulking = (some em, h₁) →
          (em.carryOut (sulk.guests 1) h₁).2.Sourced ⟨2⟩ := by
      intro settings em h₁ _ opened q active
      cases opened
      cases active
    have attached : (⟨2⟩ : PluginId).number < sulking.fresh := by decide
    have ⟨h₂, _, h', done, put, announced, joined⟩ :=
      (reload_atomic attached (.enable (some .default)) idle unsourced).right .default rfl
    cases joined with
    | enable joined => exact ⟨h₂, h', done, put, joined, announced.once⟩

end Behaviour

end Chatline
