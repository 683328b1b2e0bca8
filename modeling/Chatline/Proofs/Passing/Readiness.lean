import Chatline.Proofs.Passing.Enrolment

namespace Chatline

variable {ξ σ : Type}

namespace Host

def chosen (h : Host ξ σ) (id : PluginId) (settings : Option Settings) : Except Failure Settings × Host ξ σ :=
  match settings with
  | some s => (.ok s, h)
  | none   => h.loadSettings (h.plugin id).configPath

-- How a plugin gets ready to listen: there is a file with settings, a format is put in force and announced,
-- and the providers are bound.
inductive Ready (guests : Guests ξ σ) (id : PluginId) (settings : Option Settings) (h : Host ξ σ) :
    Host ξ σ → Prop
  | intro {written template h₁ h₂ h₃} :
    h.provideDefault id = (.ok written, h₁) → h₁.settle id settings = (.ok template, h₂) →
    (h₂.emit guests (h₂.plugin id).bus reloadedTopic reloadedSource (.ofTemplate template)).2.refresh id =
      (.ok (), h₃) →
    Ready guests id settings h h₃

variable {T : BusId → String → Prop} {h h' h₁ h₂ : Host ξ σ} {guests : Guests ξ σ} {id : PluginId}
  {settings : Option Settings}

theorem Ready.enable (hr : Ready guests id settings h h') :
    h.enable guests id settings = (.ok (), h'.listen id) := by
  cases hr with
  | intro hp hs hf =>
    simp only [Host.refresh] at hf
    simp only [Host.enable, hp, reloadSettings, hs]
    split at hf
    case h_1 => cases hf
    case h_2 =>
      cases hf
      rfl

theorem ready_of_enable_ok (ok : (h.enable guests id settings).1 = .ok ()) :
    ∃ h', Ready guests id settings h h' := by
  cases hp : h.provideDefault id with
  | mk saved h₁ =>
    cases saved with
    | error f => simp [Host.enable, hp] at ok
    | ok written =>
      cases hs : h₁.settle id settings with
      | mk settled h₂ =>
        cases settled with
        | error f => simp [Host.enable, hp, reloadSettings, hs] at ok
        | ok template =>
          simp only [Host.enable, hp, reloadSettings, hs] at ok
          split at ok
          case h_1 => cases ok
          case h_2 h₃ he => exact ⟨h₃.refreshVerifiers id, .intro hp hs (by simp only [refresh, he])⟩

theorem ready_of_enabled {behave : Behaviour ξ σ} {n : Nat}
    (enabled : (perform behave (n + 1) (.enable id settings) h).1 = .ok ()) :
    ∃ h', Ready (behave.guests n) id settings h h' ∧
      (perform behave (n + 1) (.enable id settings) h).2 = h'.listen id := by
  have ⟨h', ready⟩ := ready_of_enable_ok enabled
  exact ⟨h', ready, congrArg Prod.snd ready.enable⟩

theorem settle_ok {template : Template} (hs : h₁.settle id settings = (.ok template, h₂)) :
    ∃ (h : Host ξ σ) (s : Settings), (h₁.chosen id settings).1 = .ok s ∧ h₂ = (h.reload id s.format).2 := by
  simp only [settle] at hs
  simp only [chosen]
  cases settings with
  | some s => exact ⟨h₁, s, rfl, congrArg Prod.snd hs.symm⟩
  | none   =>
    dsimp only at hs ⊢
    split at hs
    case h_1 => cases hs
    case h_2 s he => exact ⟨_, s, he, congrArg Prod.snd hs.symm⟩

namespace Ready

variable {behave : Behaviour ξ σ} {L : PluginId → Prop} {n : Nat}

theorem ongoing_announced {p : Payload} (mild : ∀ x e, (behave x e).Keeps (Act.Mild L))
    (hf : (h.emit (behave.guests n) (h.plugin id).bus reloadedTopic reloadedSource p).2.refresh id =
      (.ok (), h')) :
    Ongoing L id h h' := by
  let a : Act ξ := .emit (h.plugin id).bus reloadedTopic reloadedSource p
  have quiet : reloadedTopic ≠ chatTopic := by decide
  have announced : Ongoing L id h (Host.perform behave (n + 1) a h).2 :=
    Behaviour.ongoing_perform mild (n + 1) (Act.Mild.chatting quiet)
  have he : (Host.perform behave (n + 1) a h).2.refresh id = (.ok (), h') := hf
  have refreshed : Changes (· = .bind id) _ ((Host.perform behave (n + 1) a h).2.refresh id).2 := .refresh .refl rfl
  rw [he] at refreshed
  exact announced.trans (.changes refreshed (by rintro _ rfl; trivial))

theorem ongoing (mild : ∀ x e, (behave x e).Keeps (Act.Mild L)) (hl : L id)
    (hr : Ready (behave.guests n) id settings h h') : Ongoing L id h h' := by
  cases hr with
  | intro hp hs hf =>
    have provided : Changes (Act.Gentle L) h (h.provideDefault id).2 := .provideDefault .refl trivial id
    rw [hp] at provided
    have settled := provided.settle hl settings
    rw [hs] at settled
    exact (Ongoing.changes settled fun _ hm => hm).trans (ongoing_announced mild hf)

theorem template {s : Settings} (mild : ∀ x e, (behave x e).Keeps (Act.Mild L)) (hl : ¬ L id)
    (hr : Ready (behave.guests n) id settings h h')
    (chosen : ((h.provideDefault id).2.chosen id settings).1 = .ok s) :
    (h'.plugin id).template = .compile s.format := by
  cases hr with
  | intro hp hs hf =>
    have ⟨_, s', hc, he⟩ := settle_ok hs
    rw [hp, hc] at chosen
    cases chosen
    subst he
    rw [(ongoing_announced mild hf).template hl, plugin_reload]

theorem related {R : Host ξ σ → Host ξ σ → Prop} {k : Host ξ σ} (hr : Ready guests id settings h h')
    (hk : Kindred T R) (hg : Respects R guests) (ht : ∀ b, T b reloadedTopic) (hR : R h k) :
    ∃ k', Ready guests id settings k k' ∧ R h' k' := by
  cases hr with
  | @intro written template h₁ h₂ _ hp hs hf =>
    cases kp : k.provideDefault id with
    | mk saved k₁ =>
      have provided := hk.provideDefault hR id
      rw [hp, kp] at provided
      cases ks : k₁.settle id settings with
      | mk settled k₂ =>
        have put := hk.settle provided.right id settings
        rw [hs, ks] at put
        have announced := hk.emit put.right hg (ht (h₂.plugin id).bus) reloadedSource (.ofTemplate template)
        have refreshed := hk.refresh announced.right id
        rw [hf, hk.bus put.right id] at refreshed
        cases kf : (k₂.emit guests (k₂.plugin id).bus reloadedTopic reloadedSource
            (.ofTemplate template)).2.refresh id with
        | mk outcome k₃ =>
          rw [kf] at refreshed
          cases provided.left
          cases put.left
          cases refreshed.left
          exact ⟨k₃, .intro kp ks kf, refreshed.right⟩

end Ready
end Host
end Chatline
