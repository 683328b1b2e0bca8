import Chatline.Proofs.Binding.Sync

namespace Chatline

variable {ξ σ : Type}

namespace Record

theorem text_chatMetaChanged (name : Option String) :
    (chatMetaChanged name).text = "New chat meta provider registered: " ++ name.getD "null" := by
  apply String.toList_injective
  simp [text, template, arguments, fillMarks]

end Record

namespace Bindings

variable {b b' b₀ b₁ : Bindings} {name : Option String} {k : Kind}

theorem ext_slot (h : ∀ k, b.slot? k = b'.slot? k) : b = b' := by
  have chatMeta : b.chatMeta = b'.chatMeta := Option.some.inj (h .chatMeta)
  have accounts : b.accounts = b'.accounts := Option.some.inj (h .accounts)
  have prefixes : b.verifierPrefixes = b'.verifierPrefixes := Option.some.inj (h .verifierPrefixes)
  cases b
  cases chatMeta
  cases accounts
  cases prefixes
  rfl

def notices (name : Option String) (b b' : Bindings) : List Record :=
  (if b'.chatMeta = b.chatMeta then [] else [.chatMetaChanged name]) ++
  ((if b'.accounts = b.accounts then [] else [.accountsChanged]) ++
  (if b'.verifierPrefixes = b.verifierPrefixes then [] else [.verifierPrefixesChanged]))

theorem notices_self : b.notices name b = [] := by
  simp [notices]

theorem isNotice_of_mem_notices {r : Record} (hr : r ∈ b.notices name b') : r.isNotice := by
  simp only [notices, List.mem_append] at hr
  rcases hr with hr | hr | hr
  all_goals
    split at hr
    case isTrue => cases hr
    case isFalse => exact List.mem_singleton.mp hr ▸ rfl

theorem text_notices : (b.notices name b').map Record.text =
    (if b'.chatMeta = b.chatMeta then [] else ["New chat meta provider registered: " ++ name.getD "null"]) ++
    ((if b'.accounts = b.accounts then [] else ["Linked account lookup changed"]) ++
    (if b'.verifierPrefixes = b.verifierPrefixes then [] else ["Verifier prefix registry changed"])) := by
  simp only [notices, List.map_append, apply_ite (List.map Record.text), List.map_nil, List.map_cons,
    Record.text_chatMetaChanged]
  rfl

def Near (k : Kind) (b b' : Bindings) : Prop :=
  ∀ k', k' ≠ k → b'.slot? k' = b.slot? k'

theorem Near.length_notices (near : Near k b b') : (b.notices name b').length ≤ 1 := by
  have chatMeta : k ≠ .chatMeta → b'.chatMeta = b.chatMeta := fun h => Option.some.inj (near .chatMeta h.symm)
  have accounts : k ≠ .accounts → b'.accounts = b.accounts := fun h => Option.some.inj (near .accounts h.symm)
  have prefixes : k ≠ .verifierPrefixes → b'.verifierPrefixes = b.verifierPrefixes :=
    fun h => Option.some.inj (near .verifierPrefixes h.symm)
  simp only [notices, List.length_append]
  cases k <;> simp [*] <;> split <;> simp

theorem Near.eq_or_eq (near : Near k b₀ b₁) (h : ∀ k, b.slot? k = b₀.slot? k ∨ b.slot? k = b₁.slot? k) :
    b = b₀ ∨ b = b₁ := by
  have elsewhere (k' : Kind) (hk : k' ≠ k) : b.slot? k' = b₀.slot? k' ∧ b.slot? k' = b₁.slot? k' := by
    rw [near k' hk]
    simpa [near k' hk] using h k'
  have both {b' : Bindings} (here : b.slot? k = b'.slot? k) (others : ∀ k', k' ≠ k → b.slot? k' = b'.slot? k') :
      b = b' := by
    apply ext_slot
    intro k'
    by_cases hk : k' = k
    case pos => exact hk ▸ here
    case neg => exact others k' hk
  exact (h k).imp (both · fun k' hk => (elsewhere k' hk).left) (both · fun k' hk => (elsewhere k' hk).right)

end Bindings

def Directory.actives (d : Directory) : Bindings where
  chatMeta         := d.active .chatMeta
  accounts         := d.active .accounts
  verifierPrefixes := d.active .verifierPrefixes

theorem Directory.slot?_actives_congr {d d' : Directory} {k : Kind} (h : d'.active k = d.active k) :
    d'.actives.slot? k = d.actives.slot? k := by
  cases k
  case other => rfl
  all_goals exact congrArg some h

namespace Host

def notices (h : Host ξ σ) : List Record :=
  h.log.filter (·.isNotice)

def written (h : Host ξ σ) (id : PluginId) (h' : Host ξ σ) : List (PluginId × Record) :=
  ((h'.log.drop h.log.length).filter (·.isNotice)).map (id, ·)

def actives (h : Host ξ σ) (id : PluginId) : Bindings :=
  (h.directoryOf id).actives

variable {id id' : PluginId} {h h' h₁ h₂ h₃ : Host ξ σ} {name : Option String}

theorem written_of_log {rs : List Record} (hl : h'.log = h.log ++ rs) :
    h.written id h' = (rs.filter (·.isNotice)).map (id, ·) := by
  rw [written, hl, List.drop_left]

theorem written_self : h.written id h = [] := by
  simp [written]

theorem notices_note {r : Record} (hr : r.isNotice = false) : (h.note r).notices = h.notices := by
  simp [notices, note, hr]

theorem notices_written (hl : h.log <+: h'.log) : h'.notices = h.notices ++ (h.written id h').map (·.2) := by
  obtain ⟨rs, hl⟩ := hl
  rw [written_of_log hl.symm, notices, ← hl, List.filter_append, List.map_map]
  simp [notices, Function.comp_def]

theorem written_trans (h₁₂ : h₁.log <+: h₂.log) (h₂₃ : h₂.log <+: h₃.log) :
    h₁.written id h₃ = h₁.written id h₂ ++ h₂.written id h₃ := by
  obtain ⟨rs, h₁₂⟩ := h₁₂
  obtain ⟨rs', h₂₃⟩ := h₂₃
  have h₁₃ : h₃.log = h₁.log ++ (rs ++ rs') := by rw [← h₂₃, ← h₁₂, List.append_assoc]
  rw [written_of_log h₁₃, written_of_log h₁₂.symm, written_of_log h₂₃.symm, List.filter_append, List.map_append]

-- The two ways in which a plugin takes over active providers.
inductive Rebound (id : PluginId) (h : Host ξ σ) : Host ξ σ → Prop
  | chatMeta : Rebound id h (h.refreshChatMeta id).2
  | verifiers : Rebound id h (h.refreshVerifiers id)

namespace Rebound

theorem changes (hr : Rebound id h h') : Changes (· = .bind id) h h' := by
  cases hr with
  | chatMeta  => exact .refreshChatMeta .refl rfl
  | verifiers => exact .refreshVerifiers .refl rfl

theorem tended (hr : Rebound id' h h') : Tended id h h' :=
  .changes hr.changes (.inr nofun) (.inr nofun) nofun nofun nofun

theorem prefix_log (hr : Rebound id h h') : h.log <+: h'.log := by
  have ⟨rs, hl, _⟩ := hr.changes.log nofun nofun
  exact ⟨rs, hl.symm⟩

theorem bound (hn : h.activeName id = .ok name) (hr : Rebound id h h') :
    h'.log = h.log ++ (h.plugin id).bindings.notices name (h'.plugin id).bindings ∧
      ∀ k, (h'.plugin id).bindings.slot? k = (h.plugin id).bindings.slot? k ∨
        (h'.plugin id).bindings.slot? k = (h.actives id).slot? k := by
  cases hr with
  | chatMeta =>
    by_cases he : h.active (h.plugin id).directory .chatMeta = (h.plugin id).bindings.chatMeta
    case pos =>
      have same : (h.refreshChatMeta id).2 = h := by simp [refreshChatMeta, he]
      rw [same, Bindings.notices_self, List.append_nil]
      exact ⟨rfl, fun _ => .inl rfl⟩
    case neg =>
      let b := { (h.plugin id).bindings with chatMeta := h.active (h.plugin id).directory .chatMeta }
      have changed : (h.refreshChatMeta id).2 =
          (h.setPlugin id { h.plugin id with bindings := b }).note (.chatMetaChanged name) := by
        rw [activeName] at hn
        simp only [refreshChatMeta, if_neg he, hn]
        rfl
      have bound : ((h.refreshChatMeta id).2.plugin id).bindings = b := by
        rw [changed, plugin_note, plugin_setPlugin, if_pos rfl]
      rw [bound, changed]
      constructor
      case left => simp [note, setPlugin, Bindings.notices, b, he]
      case right =>
        intro k
        cases k
        case chatMeta => exact .inr rfl
        all_goals exact .inl rfl
  | verifiers =>
    let b := { (h.plugin id).bindings with
      accounts         := h.active (h.plugin id).directory .accounts
      verifierPrefixes := h.active (h.plugin id).directory .verifierPrefixes }
    have bound : ((h.refreshVerifiers id).plugin id).bindings = b :=
      congrArg Plugin.bindings ((plugin_setPlugin h id id { h.plugin id with bindings := b }).trans (if_pos rfl))
    rw [bound]
    constructor
    case left => simp [refreshVerifiers, noteAll, setPlugin, Bindings.notices, b]
    case right =>
      intro k
      cases k
      case accounts => exact .inr rfl
      case verifierPrefixes => exact .inr rfl
      all_goals exact .inl rfl

end Rebound
end Host
end Chatline
