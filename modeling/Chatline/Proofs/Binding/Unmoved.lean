import Chatline.Proofs.Binding.Following
import Chatline.Proofs.Binding.Notices

namespace Chatline

variable {ξ σ : Type}

-- An act that makes no changes to the directory of a plugin, and does not rename the sources of prefixes and suffixes
-- that are registered there.
structure Act.Quiet (id : PluginId) (a : Act ξ) (h : Host ξ σ) : Prop where
  aloof : ¬ a.Concerns id h
  names : ∀ q p, a = .amend q p → q ∈ (h.directoryOf id).providers .chatMeta → p.name? = (h.provider q).name?

namespace Host

variable {id id' : PluginId} {h h' : Host ξ σ}

theorem notices_opening {a : Act ξ} (hr : ∀ id, a ≠ .refresh id) : (a.opening h).2.notices = h.notices :=
  (a.opening_changes h).notices fun id hb => by cases hb; exact hr id rfl

theorem notices_listen (id : PluginId) : (h.listen id).notices = h.notices :=
  have listening : Changes (fun c => ∀ id, c ≠ .bind id) h (h.listen id) := .listen .refl nofun fun _ _ _ _ _ => nofun
  listening.notices fun id hb => hb id rfl

structure Unmoved (id : PluginId) (h h' : Host ξ σ) : Prop where
  tended   : Tended id h h'
  bindings : (h'.plugin id).bindings = (h.plugin id).bindings
  names    : ∀ q ∈ (h.directoryOf id).providers .chatMeta, (h'.provider q).name? = (h.provider q).name?

namespace Unmoved

theorem same (hp : h'.plugins = h.plugins) (hd : h'.directories = h.directories) (hq : h'.providers = h.providers)
    (hb : h'.buses = h.buses) (hf : h.fresh ≤ h'.fresh) : Unmoved id h h' where
  tended    := .same hp hd hq hb hf
  bindings  := by rw [plugin, plugin, hp]
  names _ _ := by rw [provider, provider, hq]

theorem note (r : Record) : Unmoved id h (h.note r) :=
  same rfl rfl rfl rfl (Nat.le_refl _)

theorem number (em : Emission) : Unmoved id h (em.numbered h) where
  tended    := .number em
  bindings  := rfl
  names _ _ := rfl

theorem changes {may : Change ξ → Prop} (hc : Changes may h h') (hw : h.Wired id) (hb : ¬may (.bind id))
    (calm : ¬may (.enter (h.plugin id).directory))
    (names : ∀ q p, may (.amend q p) → q ∈ (h.directoryOf id).providers .chatMeta → p.name? = (h.provider q).name?)
    (spared : ∀ s, may (.unsubscribe s) → Tended.Spares h id s) : Unmoved id h h' where
  tended   := by
    refine .changes hc (.inl hw.plugin) (.inl hw.directory) calm (fun q p hm hq => ?_) spared
    rw [names q p hm hq]
    exact (hw.named q hq).right
  bindings := (hc.plugin (.inl hw.plugin)).bindings.resolve_left hb
  names    := by
    intro q hq
    cases hc.provider (hw.named q hq).left with
    | inl same => rw [same]
    | inr new  =>
      have ⟨p, hm, he⟩ := new
      rw [he, names q p hm hq]

theorem rebound (hr : Rebound id' h h') (hw : h.Wired id) (hn : id' ≠ id) : Unmoved id h h' :=
  changes hr.changes hw (fun he => hn (Change.bind.inj he).symm) nofun nofun nofun

theorem listen (hw : h.Wired id) (id' : PluginId) : Unmoved id h (h.listen id') := by
  have listening : Changes (fun c => (Act.enable id' none).Finishes c ∧ c ≠ .bind id') h (h.listen id') :=
    .listen .refl ⟨.hold, nofun⟩ fun _ _ _ _ hi => ⟨.subscribe hi, nofun⟩
  refine changes listening hw ?bind nofun nofun nofun
  case bind => rintro ⟨⟨⟩, hn⟩; exact hn rfl

theorem opening {a : Act ξ} (hw : h.Wired id) (safe : a.Safe id h) (quiet : a.Quiet id h)
    (hr : ∀ id, a ≠ .refresh id) : Unmoved id h (a.opening h).2 := by
  refine changes (a.opening_changes h) hw ?bind ?calm ?names ?spared
  case bind => rintro ⟨⟩; exact hr _ rfl
  case calm => rintro ⟨⟩ <;> exact quiet.aloof rfl
  case names => rintro q p ⟨⟩; exact quiet.names q p rfl
  case spared => exact safe.spares

end Unmoved
end Host
end Chatline
