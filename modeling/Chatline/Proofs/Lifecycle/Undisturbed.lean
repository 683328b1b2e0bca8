import Chatline.Proofs.Dispatch.Unchanged

namespace Chatline

variable {ξ σ α : Type}

def Act.LeavesFormat (id : PluginId) : Act ξ → Prop
  | enable id' _  => id' ≠ id
  | command id' _ => id' ≠ id
  | reload id' _  => id' ≠ id
  | _             => True

theorem Act.LeavesFormat.not_makes {id : PluginId} {a : Act ξ} {h : Host ξ σ} (leaves : a.LeavesFormat id) :
    ¬a.Makes h (.load id) := by
  rintro ⟨⟩ <;> exact leaves rfl

namespace Host

-- Once a plugin has been attached, it keeps its template, and its bus.
structure Undisturbed (id : PluginId) (h h' : Host ξ σ) : Prop where
  fresh    : h.fresh ≤ h'.fresh
  template : id.number < h.fresh → (h'.plugin id).template = (h.plugin id).template
  bus      : id.number < h.fresh → (h'.plugin id).bus = (h.plugin id).bus

namespace Undisturbed

variable {id : PluginId} {h h' h₁ h₂ h₃ : Host ξ σ} {guests : Guests ξ σ} {a : Act ξ}

theorem trans (h₁₂ : Undisturbed id h₁ h₂) (h₂₃ : Undisturbed id h₂ h₃) : Undisturbed id h₁ h₃ where
  fresh    := Nat.le_trans h₁₂.fresh h₂₃.fresh
  template := fun hi => (h₂₃.template (Nat.lt_of_lt_of_le hi h₁₂.fresh)).trans (h₁₂.template hi)
  bus      := fun hi => (h₂₃.bus (Nat.lt_of_lt_of_le hi h₁₂.fresh)).trans (h₁₂.bus hi)

theorem same (hp : h'.plugins = h.plugins) (hf : h.fresh ≤ h'.fresh) : Undisturbed id h h' where
  fresh    := hf
  template := fun _ => by rw [plugin, plugin, hp]
  bus      := fun _ => by rw [plugin, plugin, hp]

theorem refl : Undisturbed id h h :=
  same rfl (Nat.le_refl _)

theorem changes {may : Change ξ → Prop} (hc : Changes may h h') (hl : ¬may (.load id)) : Undisturbed id h h' where
  fresh    := hc.fresh_le
  template := fun hi => (hc.plugin (.inl hi)).template.resolve_left hl
  bus      := fun hi => (hc.plugin (.inl hi)).bus

theorem carryOut {h₀ : Host ξ σ} (hu : Undisturbed id h₀ h) (leaves : a.LeavesFormat id)
    (turn : ∀ t ∈ a.turns guests h, ∀ x, t.subscription.observer = .guest x →
      Undisturbed id h₀ t.before → Undisturbed id h₀ t.after) :
    Undisturbed id h₀ (a.carryOut guests h).2 := by
  apply And.left
  apply Act.carryOut_preserves (P := Undisturbed id h₀)
  case opened => exact hu.trans (changes (a.opening_changes h) leaves.not_makes)
  case number => exact fun _ _ hu => hu.trans (same rfl (Nat.le_refl _))
  case delivered => exact fun _ _ _ _ hu => hu.trans (same rfl (Nat.le_refl _))
  case failed => exact fun _ _ _ _ hu => hu.trans (same rfl (Nat.le_refl _))
  case turn =>
    intro t ht hb
    cases t.guest_or_plugin with
    | inl guest  => exact turn t ht guest.choose guest.choose_spec hb
    | inr plugin => exact hb.trans (changes (t.changes ht plugin) nofun)
  case close => exact fun k hu => hu.trans (changes (a.closing_changes k) nofun)

variable {behave : Behaviour ξ σ} {n : Nat}

theorem perform {h₀ : Host ξ σ} (hu : Undisturbed id h₀ h)
    (leaves : ∀ m a' h', Behaviour.Course behave n a h m a' h' → a'.LeavesFormat id) :
    Undisturbed id h₀ (Host.perform behave n a h).2 :=
  Behaviour.perform_preserves (P := fun _ : Unit => Undisturbed id h₀)
    (fun _ _ _ hu => hu.trans (same rfl (Nat.le_refl _)))
    (fun _ _ _ leaves turn _ hu => hu.carryOut leaves fun t ht x hx => turn t ht x hx ())
    leaves () hu

end Undisturbed
end Host
end Chatline
