import Chatline.Console
import Chatline.Proofs.Dispatch.Unchanged

namespace Chatline

variable {ξ σ : Type}

namespace Host

structure Standing where
  directories : Table DirectoryId Directory
  providers   : Table ProviderId Provider
  environment : Environment
  fresh       : Nat
  configPath  : Option String
  directory   : DirectoryId

def standing (h : Host ξ σ) (id : PluginId) : Standing where
  directories := h.directories
  providers   := h.providers
  environment := h.environment
  fresh       := h.fresh
  configPath  := (h.plugin id).configPath
  directory   := (h.plugin id).directory

-- What plugins do without guests, once there are settings.
structure Steady (h h' : Host ξ σ) : Prop where
  standing : ∀ id, h'.standing id = h.standing id
  files    : h'.files = h.files

def Calm : Change ξ → Prop
  | .load _ | .bind _ | .hold _ | .subscribe _ _ _ _ | .unsubscribe _ => True
  | _ => False

namespace Steady

variable {h h' h₁ h₂ h₃ : Host ξ σ}

theorem refl : Steady h h :=
  ⟨fun _ => rfl, rfl⟩

theorem trans (h₁₂ : Steady h₁ h₂) (h₂₃ : Steady h₂ h₃) : Steady h₁ h₃ where
  standing := fun id => (h₂₃.standing id).trans (h₁₂.standing id)
  files    := h₂₃.files.trans h₁₂.files

theorem changes {may : Change ξ → Prop} (hc : Changes may h h') (calm : ∀ c, may c → Calm c) : Steady h h' where
  standing := by
    intro id
    have ⟨_, environment⟩ := hc.surroundings (calm _)
    have altered : Plugin.Altered may id _ _ := hc.plugin (.inr (calm _))
    simp only [Host.standing]
    rw [hc.directories (calm _) fun _ => calm _, hc.providers (calm _) fun _ _ => calm _, environment,
      hc.fresh_eq (calm _) (calm _) (calm _) (calm _), altered.configPath, altered.directory]
  files    := (hc.surroundings (calm _)).left

theorem calm (hc : Changes Calm h h') : Steady h h' :=
  changes hc fun _ hm => hm

theorem emission {guests : Guests Empty σ} {k : Host Empty σ} (em : Emission) : Steady k (em.carryOut guests k).2 := by
  let sending : Act Empty := .emit em.bus em.topic em.source em.payload
  refine (Act.carryOut_preserves (P := Steady k) (a := sending) refl ?_ ?_ ?_ ?_ fun _ hs => hs).left
  case refine_1 => exact fun _ _ hs => hs.trans ⟨fun _ => rfl, rfl⟩
  case refine_2 => exact fun _ _ _ _ hs => hs.trans ⟨fun _ => rfl, rfl⟩
  case refine_3 => exact fun _ _ _ _ hs => hs.trans ⟨fun _ => rfl, rfl⟩
  case refine_4 =>
    intro t ht hs
    refine hs.trans (changes (t.changes ht fun x => x.elim) ?_)
    rintro _ ⟨id, _, rfl⟩
    trivial

end Steady
end Host
end Chatline
