import Chatline.Proofs.Dispatch.Unchanged

namespace Chatline

variable {ξ σ : Type}

inductive Act.Enlists : Act ξ → Prop
  | subscribe (bus topic priority guest) : Enlists (.subscribe bus topic priority guest)
  | unsubscribe (id) : Enlists (.unsubscribe id)
  | disable (plugin) : Enlists (.disable plugin)

namespace Host

-- What happens beside the buses: they stay as they are, and no record is about them.
structure Aside (h h' : Host ξ σ) : Prop where
  buses : h'.buses = h.buses
  log   : ∃ rs, h'.log = h.log ++ rs ∧ ∀ r ∈ rs, r.ofBus = false

namespace Aside

variable {h h₁ h₂ h₃ : Host ξ σ}

theorem silent (hb : h₂.buses = h₁.buses) (hl : h₂.log = h₁.log) : Aside h₁ h₂ where
  buses := hb
  log   := ⟨[], by simp [hl], fun _ hm => nomatch hm⟩

theorem refl : Aside h h :=
  silent rfl rfl

theorem trans (h₁₂ : Aside h₁ h₂) (h₂₃ : Aside h₂ h₃) : Aside h₁ h₃ where
  buses := h₂₃.buses.trans h₁₂.buses
  log   := by
    have ⟨rs, hl, hr⟩ := h₁₂.log
    have ⟨rs', hl', hr'⟩ := h₂₃.log
    refine ⟨rs ++ rs', by rw [hl', hl, List.append_assoc], fun r hm => ?_⟩
    exact (List.mem_append.mp hm).elim (hr r) (hr' r)

theorem noteAll {rs : List Record} (hr : ∀ r ∈ rs, r.ofBus = false) : Aside h (h.noteAll rs) where
  buses := rfl
  log   := ⟨rs, rfl, hr⟩

theorem changes {may : Change ξ → Prop} (hc : Changes may h₁ h₂)
    (hs : ∀ b topic priority observer, ¬may (.subscribe b topic priority observer)) (hu : ∀ s, ¬may (.unsubscribe s)) :
    Aside h₁ h₂ where
  buses := hc.buses hs hu
  log   := hc.log hs hu

theorem opening {a : Act ξ} (ha : ¬a.Enlists) : Aside h (a.opening h).2 := by
  refine changes (a.opening_changes h) ?subscribe ?unsubscribe
  case subscribe => rintro _ _ _ _ ⟨⟩; exact ha (.subscribe _ _ _ _)
  case unsubscribe =>
    rintro _ ⟨⟩
    · exact ha (.unsubscribe _)
    · exact ha (.disable _)

theorem refresh (id : PluginId) : Aside h (h.refresh id).2 :=
  have bound : Changes (· = .bind id) h (h.refresh id).2 := .refresh .refl rfl
  changes bound nofun nofun

theorem turn {a : Act ξ} {guests : Guests ξ σ} {t : Turn ξ σ} (ht : t ∈ a.turns guests h)
    (ho : ∀ x, t.subscription.observer ≠ .guest x) : Aside t.before t.after :=
  changes (t.changes ht ho) nofun nofun

end Aside
end Host
end Chatline
