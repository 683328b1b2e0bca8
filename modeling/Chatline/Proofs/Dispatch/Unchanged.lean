import Chatline.Proofs.Bus
import Chatline.Proofs.Dispatch.Changes

namespace Chatline

variable {ξ σ : Type}

-- What a plugin may have become: it is where it has been, and the rest is as it was unless it may be changed.
structure Plugin.Altered (may : Change ξ → Prop) (id : PluginId) (p p' : Plugin) : Prop where
  configPath    : p'.configPath = p.configPath
  bus           : p'.bus = p.bus
  directory     : p'.directory = p.directory
  template      : may (.load id) ∨ p'.template = p.template
  bindings      : may (.bind id) ∨ p'.bindings = p.bindings
  subscriptions : may (.hold id) ∨ p'.subscriptions = p.subscriptions

namespace Plugin.Altered

variable {may : Change ξ → Prop} {id : PluginId} {p p₁ p₂ p₃ : Plugin}

theorem refl : Altered may id p p :=
  ⟨rfl, rfl, rfl, .inr rfl, .inr rfl, .inr rfl⟩

theorem trans (h₁₂ : Altered may id p₁ p₂) (h₂₃ : Altered may id p₂ p₃) : Altered may id p₁ p₃ where
  configPath    := h₂₃.configPath.trans h₁₂.configPath
  bus           := h₂₃.bus.trans h₁₂.bus
  directory     := h₂₃.directory.trans h₁₂.directory
  template      := h₁₂.template.elim .inl fun he => he ▸ h₂₃.template
  bindings      := h₁₂.bindings.elim .inl fun he => he ▸ h₂₃.bindings
  subscriptions := h₁₂.subscriptions.elim .inl fun he => he ▸ h₂₃.subscriptions

end Plugin.Altered

namespace Host.Changes

variable {may : Change ξ → Prop} {h₀ h : Host ξ σ} {id : PluginId} {b : BusId} {s : Subscription (Observer ξ)}

theorem fresh_le (hc : Changes may h₀ h) : h₀.fresh ≤ h.fresh := by
  induction hc
  case refl => exact Nat.le_refl _
  case surround _ _ hf ih => exact Nat.le_trans ih hf
  case found _ ih => exact Nat.le_succ_of_le ih
  case introduce _ ih => exact Nat.le_succ_of_le ih
  case join _ ih => exact Nat.le_succ_of_le ih
  all_goals assumption

theorem fresh_eq (hc : Changes may h₀ h) (hs : ¬may .surround) (hf : ¬may .found) (hi : ¬may .introduce)
    (hj : ¬may .join) : h.fresh = h₀.fresh := by
  induction hc
  case refl => rfl
  case surround hm _ _ => exact absurd hm hs
  case found _ hm _ => exact absurd hm hf
  case introduce hm _ => exact absurd hm hi
  case join hm _ => exact absurd hm hj
  all_goals assumption

theorem surroundings (hc : Changes may h₀ h) (hs : ¬may .surround) :
    h.files = h₀.files ∧ h.environment = h₀.environment := by
  induction hc
  case refl => exact ⟨rfl, rfl⟩
  case surround hm _ _ => exact absurd hm hs
  all_goals assumption

theorem plugin (hc : Changes may h₀ h) (old : id.number < h₀.fresh ∨ ¬may .join) :
    Plugin.Altered may id (h₀.plugin id) (h.plugin id) := by
  have put {h : Host ξ σ} {id' : PluginId} {p : Plugin} (ih : Plugin.Altered may id (h₀.plugin id) (h.plugin id))
      (hp : id' = id → Plugin.Altered may id (h.plugin id) p) :
      Plugin.Altered may id (h₀.plugin id) ((h.setPlugin id' p).plugin id) := by
    rw [plugin_setPlugin]
    split
    case isTrue he => exact ih.trans (hp he.symm)
    case isFalse   => exact ih
  induction hc
  case refl => exact .refl
  case join p hc hj ih =>
    refine put ih fun he => ?_
    subst he
    exact absurd (old.resolve_right (not_not_intro hj)) (Nat.not_lt.mpr hc.fresh_le)
  case load format _ hl ih =>
    exact put ih fun he => he ▸ ⟨rfl, rfl, rfl, .inl (he ▸ hl), .inr rfl, .inr rfl⟩
  case bind _ hb _ _ ih => exact put ih fun he => he ▸ ⟨rfl, rfl, rfl, .inr rfl, .inl (he ▸ hb), .inr rfl⟩
  case hold _ hh ih => exact put ih fun he => he ▸ ⟨rfl, rfl, rfl, .inr rfl, .inr rfl, .inl (he ▸ hh)⟩
  all_goals assumption

theorem directory {d : DirectoryId} (hc : Changes may h₀ h) (old : d.number < h₀.fresh ∨ ¬may .found)
    (he : ¬may (.enter d)) : h.directory d = h₀.directory d := by
  induction hc
  case refl => rfl
  case found hc hf ih =>
    refine (directory_setDirectory _ _ d _).trans ((if_neg fun hd => ?_).trans ih)
    subst hd
    exact absurd (old.resolve_right (not_not_intro hf)) (Nat.not_lt.mpr hc.fresh_le)
  case enter _ hm _ ih =>
    refine (directory_setDirectory _ _ d _).trans ((if_neg fun hd => ?_).trans ih)
    exact he (hd ▸ hm)
  all_goals assumption

theorem directories (hc : Changes may h₀ h) (hf : ¬may .found) (he : ∀ d, ¬may (.enter d)) :
    h.directories = h₀.directories := by
  induction hc
  case refl => rfl
  case found _ hm _ => exact absurd hm hf
  case enter hm _ _ => exact absurd hm (he _)
  all_goals assumption

theorem provider {q : ProviderId} (hc : Changes may h₀ h) (old : q.number < h₀.fresh) :
    h.provider q = h₀.provider q ∨ ∃ p, may (.amend q p) ∧ h.provider q = p := by
  induction hc
  case refl => exact .inl rfl
  case introduce p hc _ ih =>
    rw [provider_introduce, if_neg]
    case hnc =>
      intro he
      subst he
      exact absurd old (Nat.not_lt.mpr hc.fresh_le)
    exact ih
  case amend hm ih =>
    rw [provider_amend]
    split
    case isTrue he => exact .inr ⟨_, he ▸ hm, rfl⟩
    case isFalse   => exact ih
  all_goals assumption

theorem providers (hc : Changes may h₀ h) (hi : ¬may .introduce) (ha : ∀ q p, ¬may (.amend q p)) :
    h.providers = h₀.providers := by
  induction hc
  case refl => rfl
  case introduce hm _ => exact absurd hm hi
  case amend hm _ => exact absurd hm (ha _ _)
  all_goals assumption

theorem subscribed_le (hc : Changes may h₀ h) (b : BusId) : (h₀.bus b).subscribed ≤ (h.bus b).subscribed := by
  induction hc
  case refl => exact Nat.le_refl _
  case subscribe ih =>
    rw [bus_subscribe]
    split
    case isTrue he => exact Nat.le_succ_of_le (he ▸ ih)
    case isFalse   => exact ih
  case unsubscribe ih =>
    rw [bus_note, bus_setBus]
    split
    case isTrue he => exact he ▸ ih
    case isFalse   => exact ih
  all_goals assumption

theorem subscriptions (hc : Changes may h₀ h) (hs : s ∈ (h.bus b).subscriptions) :
    s ∈ (h₀.bus b).subscriptions ∨
      s.serial < (h.bus b).subscribed ∧ may (.subscribe b s.topic s.priority s.observer) := by
  induction hc
  case refl => exact .inl hs
  case subscribe hm ih =>
    rw [bus_subscribe] at hs ⊢
    split at hs
    case isFalse hb => exact if_neg hb ▸ ih hs
    case isTrue hb  =>
      subst hb
      rw [if_pos rfl]
      cases Bus.mem_subscribe.mp hs with
      | inl he =>
        subst he
        exact .inr ⟨Nat.lt_succ_self _, hm⟩
      | inr hs => exact (ih hs).imp_right (And.imp_left Nat.lt_succ_of_lt)
  case unsubscribe ih =>
    rw [bus_note, bus_setBus] at hs ⊢
    split at hs
    case isFalse hb => exact if_neg hb ▸ ih hs
    case isTrue hb  =>
      subst hb
      rw [if_pos rfl]
      exact ih (Bus.mem_unsubscribe.mp hs).left
  case noteAll ih => exact ih hs
  case ask ih => exact ih hs
  case surround ih => exact ih hs
  case found ih => exact ih hs
  case introduce ih => exact ih hs
  case amend ih => exact ih hs
  case join ih => exact ih hs
  case enter ih => exact ih hs
  case load ih => exact ih hs
  case bind ih => exact ih hs
  case hold ih => exact ih hs

theorem retained (hc : Changes may h₀ h) (hs : s ∈ (h₀.bus b).subscriptions) (hu : ¬may (.unsubscribe ⟨b, s.serial⟩)) :
    s ∈ (h.bus b).subscriptions := by
  induction hc
  case refl => exact hs
  case subscribe ih =>
    rw [bus_subscribe]
    split
    case isTrue hb => exact Bus.mem_subscribe.mpr (.inr (hb ▸ ih))
    case isFalse   => exact ih
  case unsubscribe hm _ ih =>
    rw [bus_note, bus_setBus]
    split
    case isTrue hb =>
      subst hb
      exact Bus.mem_unsubscribe.mpr ⟨ih, fun he => hu (he ▸ hm)⟩
    case isFalse   => exact ih
  all_goals assumption

theorem buses (hc : Changes may h₀ h) (hs : ∀ b topic priority observer, ¬may (.subscribe b topic priority observer))
    (hu : ∀ s, ¬may (.unsubscribe s)) : h.buses = h₀.buses := by
  induction hc
  case refl => rfl
  case subscribe hm _ => exact absurd hm (hs _ _ _ _)
  case unsubscribe hm _ _ => exact absurd hm (hu _)
  all_goals assumption

theorem log (hc : Changes may h₀ h) (hs : ∀ b topic priority observer, ¬may (.subscribe b topic priority observer))
    (hu : ∀ s, ¬may (.unsubscribe s)) : ∃ rs, h.log = h₀.log ++ rs ∧ ∀ r ∈ rs, r.ofBus = false := by
  have add {log rs' : List Record} (hr : ∀ r ∈ rs', r.ofBus = false) :
      (∃ rs, log = h₀.log ++ rs ∧ ∀ r ∈ rs, r.ofBus = false) →
        ∃ rs, log ++ rs' = h₀.log ++ rs ∧ ∀ r ∈ rs, r.ofBus = false := by
    intro ⟨rs, hl, plain⟩
    exact ⟨rs ++ rs', by rw [hl, List.append_assoc], fun r hm => (List.mem_append.mp hm).elim (plain r) (hr r)⟩
  induction hc
  case refl => exact ⟨[], (List.append_nil _).symm, nofun⟩
  case noteAll hr ih => exact add (fun r hm => (hr r hm).left) ih
  case enter hr ih => exact add (by simpa using hr.left) ih
  case load ih => exact add (by simp [Record.ofBus]) ih
  case bind hr ih => exact add hr ih
  case subscribe hm _ => exact absurd hm (hs _ _ _ _)
  case unsubscribe hm _ _ => exact absurd hm (hu _)
  all_goals assumption

theorem notices (hc : Changes may h₀ h) (hb : ∀ id, ¬may (.bind id)) :
    h.log.filter (·.isNotice) = h₀.log.filter (·.isNotice) := by
  have add {log rs : List Record} (hr : ∀ r ∈ rs, r.isNotice = false)
      (ih : log.filter (·.isNotice) = h₀.log.filter (·.isNotice)) :
      (log ++ rs).filter (·.isNotice) = h₀.log.filter (·.isNotice) := by
    have none : rs.filter (·.isNotice) = [] := by simpa [List.filter_eq_nil_iff] using hr
    rw [List.filter_append, none, List.append_nil, ih]
  induction hc
  case refl => rfl
  case noteAll hr ih => exact add (fun r hm => (hr r hm).right) ih
  case enter hr ih => exact add (by simpa using hr.right) ih
  case load ih => exact add (by simp [Record.isNotice]) ih
  case bind hm _ _ _ => exact absurd hm (hb _)
  case subscribe ih => exact add (by simp [Record.isNotice]) ih
  case unsubscribe ih => exact add (by simp [Record.isNotice]) ih
  all_goals assumption

end Host.Changes
end Chatline
