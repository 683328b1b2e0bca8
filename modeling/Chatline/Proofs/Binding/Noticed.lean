import Chatline.Proofs.Binding.Unmoved
import Chatline.Proofs.Dispatch.Chronicle

namespace Chatline

variable {ξ σ α : Type}

def Turn.notices (t : Turn ξ σ) : List (PluginId × Record) :=
  match t.subscription.observer with
  | .rebinder id => t.before.written id t.after
  | _            => []

namespace Act

def openingNotices : Act ξ → Host ξ σ → List (PluginId × Record)
  | refresh id, h => h.written id (h.refresh id).2
  | _, _          => []

def closingNotices (guests : Guests ξ σ) (a : Act ξ) (h : Host ξ σ) : List (PluginId × Record) :=
  match a with
  | enable id _ =>
    match a.opening h with
    | (some em, h) => (em.carryOut guests h).2.written id ((em.carryOut guests h).2.refresh id).2
    | (none, _)    => []
  | _ => []

theorem closingNotices_of_silent {guests : Guests ξ σ} {a : Act ξ} {h h' : Host ξ σ} (he : a.opening h = (none, h')) :
    a.closingNotices guests h = [] := by
  cases a
  case enable id settings => simp only [closingNotices, he]
  all_goals rfl

end Act

-- All notices that are written because of an act, each with the plugin that writes it, in the order of time and at
-- whatever depth.
def Behaviour.notices (behave : Behaviour ξ σ) : Nat → Act ξ → Host ξ σ → List (PluginId × Record)
  | 0, _, _         => []
  | depth + 1, a, h =>
    a.openingNotices h ++
      ((a.turns (behave.guests depth) h).flatMap fun t => behave.share depth (notices behave depth) t ++ t.notices) ++
      a.closingNotices (behave.guests depth) h

def ownNotices (id : PluginId) (ns : List (PluginId × Record)) : List Record :=
  (ns.filter (·.1 = id)).map (·.2)

theorem ownNotices_append {id : PluginId} {ns ns' : List (PluginId × Record)} :
    ownNotices id (ns ++ ns') = ownNotices id ns ++ ownNotices id ns' := by
  simp [ownNotices]

theorem ownNotices_self {id : PluginId} {rs : List Record} : ownNotices id (rs.map (id, ·)) = rs := by
  simp [ownNotices, List.filter_map, Function.comp_def]

theorem ownNotices_other {id id' : PluginId} (hn : id' ≠ id) {rs : List Record} :
    ownNotices id (rs.map (id', ·)) = [] := by
  simp [ownNotices, List.filter_map, Function.comp_def, hn]

namespace Host

-- How a host comes about from one in which the directory of a plugin is in its final state, and the notices that are
-- written on the way. All there is to a step is that some plugin binds active providers, or that the plugin is left
-- as it is.
inductive Noticed (id : PluginId) (h₀ : Host ξ σ) : List (PluginId × Record) → Host ξ σ → Prop
  | refl : Noticed id h₀ [] h₀
  | beside {ns h h'} : Noticed id h₀ ns h → Unmoved id h h' → h'.notices = h.notices → Noticed id h₀ ns h'
  | rebound {ns h h' id'} : Noticed id h₀ ns h → Rebound id' h h' → Noticed id h₀ (ns ++ h.written id' h') h'

namespace Noticed

variable {id id' : PluginId} {h₀ h h' : Host ξ σ} {ns : List (PluginId × Record)} {guests : Guests ξ σ}

theorem tended (hn : Noticed id h₀ ns h) : Tended id h₀ h := by
  induction hn with
  | refl           => exact .refl
  | beside _ hu _ ih => exact ih.trans hu.tended
  | rebound _ hr ih => exact ih.trans hr.tended

theorem notices (hn : Noticed id h₀ ns h) : h.notices = h₀.notices ++ ns.map (·.2) := by
  induction hn with
  | refl => simp
  | beside _ _ he ih => rw [he, ih]
  | rebound _ hr ih => rw [notices_written hr.prefix_log, ih, List.map_append, List.append_assoc]

theorem names (hn : Noticed id h₀ ns h) :
    ∀ q ∈ (h₀.directoryOf id).providers .chatMeta, (h.provider q).name? = (h₀.provider q).name? := by
  induction hn with
  | refl => exact fun _ _ => rfl
  | beside hn hu _ ih =>
    intro q hq
    rw [hu.names q (hn.tended.directory ▸ hq), ih q hq]
  | rebound _ hr ih =>
    intro q hq
    rw [provider, hr.changes.providers (by rintro ⟨⟩) (by rintro _ _ ⟨⟩)]
    exact ih q hq

theorem actives (hn : Noticed id h₀ ns h) : h.actives id = h₀.actives id :=
  congrArg Directory.actives hn.tended.directory

theorem activeName (hn : Noticed id h₀ ns h) : h.activeName id = h₀.activeName id := by
  have same : h.active (h.plugin id).directory .chatMeta = h₀.active (h₀.plugin id).directory .chatMeta :=
    congrArg (·.active .chatMeta) hn.tended.directory
  rw [Host.activeName, Host.activeName, same]
  cases hq : h₀.active (h₀.plugin id).directory .chatMeta with
  | none   => rfl
  | some q => exact congrArg (some <$> ·) (hn.names q (List.mem_of_getLast? hq))

theorem own_rebound {name : Option String} (named : h.activeName id = .ok name) (hr : Rebound id h h') :
    ownNotices id (h.written id h') = (h.plugin id).bindings.notices name (h'.plugin id).bindings := by
  have all : ((h.plugin id).bindings.notices name (h'.plugin id).bindings).filter (·.isNotice) =
      (h.plugin id).bindings.notices name (h'.plugin id).bindings :=
    List.filter_eq_self.mpr fun _ hm => Bindings.isNotice_of_mem_notices hm
  rw [written_of_log (hr.bound named).left, all, ownNotices_self]

-- If the active providers differ from what has been bound at first for one kind at most, either of them is bound, and
-- the plugin has written the notices of what it has bound in the meantime.
theorem own (hn : Noticed id h₀ ns h) {k : Kind} {name : Option String} (hw : h₀.Wired id)
    (near : Bindings.Near k (h₀.plugin id).bindings (h₀.actives id)) (named : h₀.activeName id = .ok name) :
    ((h.plugin id).bindings = (h₀.plugin id).bindings ∨ (h.plugin id).bindings = h₀.actives id) ∧
      ownNotices id ns = (h₀.plugin id).bindings.notices name (h.plugin id).bindings := by
  induction hn with
  | refl => exact ⟨.inl rfl, Bindings.notices_self.symm⟩
  | beside _ hu _ ih =>
    rw [hu.bindings]
    exact ih
  | @rebound _ h h' id' hn hr ih =>
    rw [ownNotices_append]
    by_cases hi : id' = id
    case neg =>
      have unmoved : Unmoved id h h' := .rebound hr (hw.tended hn.tended) hi
      rw [written, ownNotices_other hi, unmoved.bindings, List.append_nil]
      exact ih
    case pos =>
      subst hi
      -- What is active may be bound more than once, but only the first time is there anything to tell.
      have bound := (hr.bound (hn.activeName.trans named)).right
      rw [hn.actives] at bound
      rw [own_rebound (hn.activeName.trans named) hr, ih.right]
      cases ih.left with
      | inl first =>
        rw [first] at bound ⊢
        rw [Bindings.notices_self, List.nil_append]
        exact ⟨near.eq_or_eq bound, rfl⟩
      | inr last  =>
        have same : (h'.plugin id').bindings = h₀.actives id' :=
          Bindings.ext_slot fun k => (bound k).elim (fun he => last ▸ he) id
        rw [last, same, Bindings.notices_self, List.append_nil]
        exact ⟨.inr rfl, rfl⟩

theorem nothing {ns' : List (PluginId × Record)} (hn : Noticed id h₀ ns h) (none : ns' = []) :
    Noticed id h₀ (ns ++ ns') h := by
  rwa [none, List.append_nil]

theorem rebind (hn : Noticed id h₀ ns h) (id' : PluginId) (kind : Option Kind) :
    Noticed id h₀ (ns ++ h.written id' (h.rebind id' kind).2) (h.rebind id' kind).2 := by
  simp only [Host.rebind]
  split
  case h_1 => exact hn.rebound .chatMeta
  case h_2 => exact hn.rebound .verifiers
  case h_3 => exact hn.rebound .verifiers
  case h_4 => exact hn.nothing written_self

theorem refresh (hn : Noticed id h₀ ns h) (id' : PluginId) :
    Noticed id h₀ (ns ++ h.written id' (h.refresh id').2) (h.refresh id').2 := by
  have first : Rebound id' h (h.refreshChatMeta id').2 := .chatMeta
  have second : Rebound id' (h.refreshChatMeta id').2 ((h.refreshChatMeta id').2.refreshVerifiers id') := .verifiers
  -- Without a name for the source of prefixes and suffixes, the second half is left out.
  have both : (h.refresh id').2 = (h.refreshChatMeta id').2 ∨
      (h.refresh id').2 = (h.refreshChatMeta id').2.refreshVerifiers id' := by
    simp only [Host.refresh]
    split
    case h_1 he => exact .inl (by rw [he])
    case h_2 he => exact .inr (by rw [he])
  cases both with
  | inl he => exact he ▸ hn.rebound first
  | inr he =>
    rw [he, written_trans first.prefix_log second.prefix_log, ← List.append_assoc]
    exact (hn.rebound first).rebound second

theorem ask (hn : Noticed id h₀ ns h) (qs : List Asked) : Noticed id h₀ ns { h with asked := h.asked ++ qs } :=
  hn.beside (.same rfl rfl rfl rfl (Nat.le_refl _)) rfl

theorem plugin {a : Act ξ} {t : Turn ξ σ} (ht : t ∈ a.turns guests h) (ho : ∀ x, t.subscription.observer ≠ .guest x)
    (hn : Noticed id h₀ ns t.before) : Noticed id h₀ (ns ++ t.notices) t.after := by
  have hr := congrArg Prod.snd (Act.turns_react ht)
  dsimp only at hr
  rw [Turn.notices, hr]
  cases hs : t.subscription.observer with
  | guest x => exact absurd hs (ho x)
  | installer id' => exact hn.nothing rfl
  | resolver id' =>
    simp only [react, resolve]
    split
    case h_1 => exact hn.nothing rfl
    case h_2 => split <;> exact (hn.ask _).nothing rfl
  | rebinder id' =>
    dsimp only
    rw [react_rebinder]
    exact hn.rebind id' _

theorem note {r : Record} (hn : Noticed id h₀ ns h) (hr : r.isNotice = false) : Noticed id h₀ ns (h.note r) :=
  hn.beside (.note r) (notices_note hr)

theorem delivery {share : Turn ξ σ → List (PluginId × Record)} {em : Emission} (hn : Noticed id h₀ ns (em.numbered h))
    (turn : ∀ t ∈ em.turns guests h, ∀ ns, Noticed id h₀ ns t.before → Noticed id h₀ (ns ++ share t) t.after) :
    Noticed id h₀ (ns ++ (em.turns guests h).flatMap share) (em.carryOut guests h).2 :=
  deliver_tells (P := Noticed id h₀) (fun _ _ _ hn => hn.note rfl) (fun _ _ _ hn => hn.note rfl) turn hn

theorem opening {a : Act ξ} (hn : Noticed id h₀ ns h) (hw : h.Wired id) (safe : a.Safe id h) (quiet : a.Quiet id h) :
    Noticed id h₀ (ns ++ a.openingNotices h) (a.opening h).2 := by
  by_cases hr : ∃ id, a = .refresh id
  case pos =>
    obtain ⟨id', rfl⟩ := hr
    exact hn.refresh id'
  case neg =>
    have none : a.openingNotices h = [] := by
      cases a
      case refresh id' => exact absurd ⟨id', rfl⟩ hr
      all_goals rfl
    have hr : ∀ id, a ≠ .refresh id := fun id' he => hr ⟨id', he⟩
    exact (hn.beside (.opening hw safe quiet hr) (notices_opening hr)).nothing none

theorem closing {a : Act ξ} {em : Emission} (hn : Noticed id h₀ ns (em.carryOut guests h').2) (hw : h₀.Wired id)
    (he : a.opening h = (some em, h')) :
    Noticed id h₀ (ns ++ a.closingNotices guests h) (a.closing (em.carryOut guests h').2) := by
  cases a
  case enable id' settings =>
    have refreshed := hn.refresh id'
    simp only [Act.closingNotices, Act.closing, he]
    cases hr : (em.carryOut guests h').2.refresh id' with
    | mk result k =>
      rw [hr] at refreshed
      cases result with
      | error e => exact refreshed
      | ok u    =>
        exact refreshed.beside (.listen (hw.tended refreshed.tended) id') (notices_listen id')
  all_goals exact hn.nothing rfl

theorem carryOut {share : Turn ξ σ → List (PluginId × Record)} {a : Act ξ} (hn : Noticed id h₀ ns h) (hw : h₀.Wired id)
    (safe : a.Safe id h) (quiet : a.Quiet id h)
    (turn : ∀ t ∈ a.turns guests h, ∀ ns, Noticed id h₀ ns t.before → Noticed id h₀ (ns ++ share t) t.after) :
    Noticed id h₀ (ns ++ (a.openingNotices h ++ (a.turns guests h).flatMap share ++ a.closingNotices guests h))
      (a.carryOut guests h).2 := by
  have opened := hn.opening (hw.tended hn.tended) safe quiet
  cases a.carryOut_cases guests h with
  | inl silent =>
    have ⟨he, done, nobody⟩ := silent
    rw [done, nobody, Act.closingNotices_of_silent he, List.flatMap_nil, List.append_nil, List.append_nil]
    exact opened
  | inr announced =>
    have ⟨em, he, done, notified⟩ := announced
    rw [notified] at turn
    rw [done, notified, ← List.append_assoc, ← List.append_assoc]
    have numbered := opened.beside (.number em) (notices_note rfl)
    exact (numbered.delivery turn).closing hw he

variable {behave : Behaviour ξ σ}

theorem turn {n : Nat} {a : Act ξ} {t : Turn ξ σ} (ht : t ∈ a.turns (behave.guests n) h)
    (acts : ∀ x a₁ h₁, t.subscription.observer = .guest x →
      (a₁, h₁) ∈ (behave x t.event).acts (Host.perform behave n) t.before →
      ∀ ns, Noticed id h₀ ns h₁ → Noticed id h₀ (ns ++ behave.notices n a₁ h₁) (Host.perform behave n a₁ h₁).2)
    (hb : Noticed id h₀ ns t.before) :
    Noticed id h₀ (ns ++ (behave.share n (behave.notices n) t ++ t.notices)) t.after := by
  cases t.guest_or_plugin with
  | inl guest  =>
    obtain ⟨x, hx⟩ := guest
    simp only [Behaviour.share, Turn.notices, hx, List.append_nil]
    rw [Behaviour.after_eq_run ht hx]
    have memory (ns : List (PluginId × Record)) (h : Host ξ σ) (m : σ) (hn : Noticed id h₀ ns h) :
        Noticed id h₀ ns { h with memory := m } :=
      hn.beside (.same rfl rfl rfl rfl (Nat.le_refl _)) rfl
    exact Program.run_tells _ memory (fun a₁ h₁ hm ns hn => acts x a₁ h₁ hx hm ns hn) hb
  | inr plugin =>
    have nothing : behave.share n (behave.notices n) t = [] := by
      rw [Behaviour.share]
      split
      case h_1 x hx => exact absurd hx (plugin x)
      case h_2 => rfl
    rw [nothing, List.nil_append]
    exact hb.plugin ht plugin

theorem perform {n : Nat} {a : Act ξ} (hn : Noticed id h₀ ns h) (hw : h₀.Wired id)
    (quiet : ∀ m a' h', Behaviour.Course behave n a h m a' h' → a'.Safe id h' ∧ a'.Quiet id h') :
    Noticed id h₀ (ns ++ behave.notices n a h) (Host.perform behave n a h).2 := by
  induction n generalizing a h ns with
  | zero => exact hn.nothing rfl
  | succ n ih =>
    have ⟨safe, still⟩ := quiet _ _ _ .refl
    refine hn.carryOut hw safe still fun t ht ns hb => hb.turn ht fun x a₁ h₁ hx hm ns hn => ?_
    exact ih hn fun m a' h' hc => quiet m a' h' (.nest ht hx hm hc)

end Noticed
end Host

end Chatline
