import Chatline.Proofs.Dispatch.Trail
import Chatline.Proofs.Lifecycle.Reloading

namespace Chatline

variable {ξ σ α : Type}

namespace Act

-- The format that an act puts in force for a plugin, if it does. If the format is one of settings, it takes settings
-- that can be had at that moment.
def format? (id : PluginId) (h : Host ξ σ) : Act ξ → Option (Option String)
  | reload id' format   => if id' = id then some format else none
  | command id' args    =>
    if id' = id ∧ args.head?.any (·.map Char.toLower == "reload") then
      (h.chosen id none).1.toOption.map (·.format)
    else none
  | enable id' settings => if id' = id then (h.intended id settings).toOption.map (·.format) else none
  | _                   => none

theorem LeavesFormat.format? {id : PluginId} {a : Act ξ} (leaves : a.LeavesFormat id) (h : Host ξ σ) :
    a.format? id h = none := by
  cases a
  case enable id' settings => exact if_neg leaves
  case command id' args => exact if_neg fun he => leaves he.left
  case reload id' format => exact if_neg leaves
  all_goals rfl

end Act

def Juncture.format? (id : PluginId) (m : Juncture ξ σ) : Option (Option String) :=
  m.act.bind (·.format? id m.host)

namespace Behaviour

def stepsOf (behave : Behaviour ξ σ) (depth : Nat) (acts : List (Act ξ × Host ξ σ)) : List (Juncture ξ σ) :=
  acts.flatMap fun (a, h) => behave.steps depth a h

-- The formats that are put in force for a plugin because of these acts.
def formats (behave : Behaviour ξ σ) (id : PluginId) (depth : Nat) (acts : List (Act ξ × Host ξ σ)) :
    List (Option String) :=
  (behave.stepsOf depth acts).filterMap (·.format? id)

end Behaviour

namespace Host

variable {id : PluginId} {settings : Option Settings} {h h' h₀ : Host ξ σ} {ms : List (Juncture ξ σ)} {a : Act ξ}

theorem template_reloading (h : Host ξ σ) (id : PluginId) (settings : Option Settings) :
    ((Act.reloading h id settings).2.plugin id).template =
      ((h.chosen id settings).1.toOption.map (·.format)).elim (h.plugin id).template .compile := by
  have prepared := Prepared.chosen h id settings
  simp only [Act.reloading, settle_eq]
  cases hc : h.chosen id settings with
  | mk loaded h₁ =>
    rw [hc] at prepared
    have same : h₁.plugin id = h.plugin id := by rw [Host.plugin, Host.plugin, prepared.plugins]
    cases loaded with
    | error f => simp [same, Except.toOption]
    | ok s    => simp [plugin_reload, Except.toOption]

theorem template_enabling (h : Host ξ σ) (id : PluginId) (settings : Option Settings) :
    (((Act.enable id settings).opening h).2.plugin id).template =
      ((h.intended id settings).toOption.map (·.format)).elim (h.plugin id).template .compile := by
  have provided := Prepared.provideDefault h id
  simp only [Act.opening, intended]
  cases hp : h.provideDefault id with
  | mk written h₁ =>
    rw [hp] at provided
    have same : h₁.plugin id = h.plugin id := by rw [Host.plugin, Host.plugin, provided.plugins]
    cases written with
    | error f => simp [same, Except.toOption]
    | ok _    => exact same ▸ template_reloading h₁ id settings

theorem plugin_started (a : Act ξ) (h : Host ξ σ) : (a.started h).plugin = (a.opening h).2.plugin := by
  simp only [Act.started]
  split
  case h_1 he => rw [he]; rfl
  case h_2 he => rw [he]

theorem template_started (ha : ∀ path saves b d, a ≠ .attach path saves b d) :
    ((a.started h).plugin id).template = (a.format? id h).elim (h.plugin id).template .compile := by
  rw [plugin_started]
  by_cases leaves : a.LeavesFormat id
  case pos =>
    have unattached : ¬a.Makes h .join := by rintro ⟨⟩; exact ha _ _ _ _ rfl
    have altered : Plugin.Altered (a.Makes h) id _ _ := (a.opening_changes h).plugin (.inr unattached)
    rw [leaves.format?]
    exact altered.template.resolve_left leaves.not_makes
  case neg =>
    cases a
    case enable id' settings =>
      cases Classical.not_not.mp leaves
      simp only [Act.format?, if_true]
      exact template_enabling h id settings
    case command id' args =>
      cases Classical.not_not.mp leaves
      simp only [Act.opening, Act.format?, true_and]
      split
      case isTrue => exact template_reloading h id none
      case isFalse => rfl
    case reload id' format =>
      cases Classical.not_not.mp leaves
      simp only [Act.format?, if_true]
      exact congrArg Plugin.template (plugin_reload h id format)
    all_goals exact absurd trivial leaves

namespace Trail

theorem template (ht : Trail h₀ ms h) (id : PluginId)
    (ha : ∀ a k, ⟨some a, k⟩ ∈ ms → ∀ path saves b d, a ≠ .attach path saves b d) :
    (h.plugin id).template = (ms.filterMap (·.format? id)).getLast?.elim (h₀.plugin id).template .compile := by
  induction ht with
  | refl => rfl
  | beside _ hb ih => rw [hb.templates, ih ha]
  | look _ ih => simpa [Juncture.format?] using ih fun a k hm => ha a k (List.mem_append_left _ hm)
  | @begin ms h a _ ih =>
    have before := ih fun a k hm => ha a k (List.mem_append_left _ hm)
    rw [template_started (ha a h (List.mem_append_right _ (.head _))), before, List.filterMap_append]
    cases hf : a.format? id h <;> simp [Juncture.format?, hf]

end Trail

theorem intended_of_enabled {behave : Behaviour ξ σ} {n : Nat}
    (enabled : (perform behave (n + 1) (.enable id settings) h).1 = .ok ()) :
    ∃ s, h.intended id settings = .ok s := by
  have ⟨_, ready, _⟩ := ready_of_enabled enabled
  cases ready with
  | intro provided settled _ =>
    have ⟨_, s, chosen, _⟩ := settle_ok settled
    exact ⟨s, by simp only [intended, provided, chosen]⟩

end Host
end Chatline
