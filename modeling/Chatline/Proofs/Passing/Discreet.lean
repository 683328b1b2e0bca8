import Chatline.Proofs.Passing.Alike

namespace Chatline

variable {ξ σ α : Type}

-- What is done while a message is on its way: providers come and go, plugins in `L` get another format, files
-- change, and things are announced. Nobody subscribes, and no other message is sent.
def Act.Mild (L : PluginId → Prop) : Act ξ → Prop
  | .introduce _ | .amend _ _ | .register _ _ _ | .unregister _ _ _ | .refresh _ => True
  | .supply _ _ | .remove _ | .setEnvironment _ => True
  | .reload id _ | .command id _ => L id
  | .emit _ topic _ _ => topic ≠ Host.chatTopic
  | _ => False

def Program.Keeps (permitted : Act ξ → Prop) : Program ξ σ α → Prop
  | done _      => True
  | look next   => ∀ h, (next h).Keeps permitted
  | keep _ next => next.Keeps permitted
  | .act a next => permitted a ∧ ∀ r, (next r).Keeps permitted

theorem Act.Mild.mono {L L' : PluginId → Prop} {a : Act ξ} (mild : a.Mild L) (hl : ∀ id, L id → L' id) :
    a.Mild L' := by
  cases a
  case command id args => exact hl id mild
  case reload id format => exact hl id mild
  all_goals exact mild

theorem Program.Keeps.mono {permitted permitted' : Act ξ → Prop} {p : Program ξ σ α} (keeps : p.Keeps permitted)
    (hp : ∀ a, permitted a → permitted' a) : p.Keeps permitted' := by
  induction p with
  | done _         => trivial
  | look _ ih      => exact fun h => ih h (keeps h)
  | keep _ next ih => exact ih keeps
  | act a _ ih     => exact ⟨hp a keeps.left, fun r => ih r (keeps.right r)⟩

def Program.Overlooks (R : Host ξ σ → Host ξ σ → Prop) : Program ξ σ α → Prop
  | done _      => True
  | look next   => (∀ h, (next h).Overlooks R) ∧ ∀ h h', R h h' → next h = next h'
  | keep _ next => next.Overlooks R
  | .act _ next => ∀ r, (next r).Overlooks R

theorem Program.run_agree {R S : Host ξ σ → Host ξ σ → Prop} {permitted : Act ξ → Prop} {p : Program ξ σ α}
    (keeps : p.Keeps permitted) (overlooks : p.Overlooks S) (hS : ∀ h h', R h h' → S h h')
    {performing : (a : Act ξ) → Host ξ σ → Except Failure a.Reply × Host ξ σ}
    (memory : ∀ h h' m, R h h' → R { h with memory := m } { h' with memory := m })
    (acts : ∀ a h h', permitted a → R h h' →
      (performing a h).1 = (performing a h').1 ∧ R (performing a h).2 (performing a h').2)
    {h h' : Host ξ σ} (hR : R h h') :
    (p.run performing h).1 = (p.run performing h').1 ∧ R (p.run performing h).2 (p.run performing h').2 := by
  induction p generalizing h h' with
  | done a => exact ⟨rfl, hR⟩
  | look next ih =>
    have same : next h = next h' := overlooks.right h h' (hS h h' hR)
    simp only [run, same]
    exact ih h' (keeps h') (overlooks.left h') hR
  | keep m next ih => exact ih keeps overlooks (memory h h' m hR)
  | act a next ih =>
    have ⟨same, hR⟩ := acts a h h' keeps.left hR
    simp only [run, same]
    exact ih _ (keeps.right _) (overlooks _) hR

def besideChat (b₀ : BusId) : BusId → String → Prop :=
  fun b topic => b = b₀ → topic ≠ Host.chatTopic

namespace Host

variable {T : BusId → String → Prop} {R S : Host ξ σ → Host ξ σ → Prop} {L : PluginId → Prop} {h h' : Host ξ σ}
  {guests : Guests ξ σ}

theorem Kindred.mild (hk : Kindred T R) (hR : R h h') (hg : Respects R guests)
    (ht : ∀ b topic, topic ≠ chatTopic → T b topic) {a : Act ξ} (mild : a.Mild L) :
    Agree R (a.carryOut guests h) (a.carryOut guests h') := by
  cases a
  case introduce p => exact (hk.introduce hR p).reply
  case amend q p => exact ⟨rfl, hk.surround hR (·.amend q p) fun _ => rfl⟩
  case emit b topic source p => exact (hk.emit hR hg (ht b topic mild) source p).reply
  case register d k p => exact ⟨rfl, hk.register hR hg (fun b => ht b _ (by decide)) d k p⟩
  case unregister d k p => exact (hk.unregister hR hg (fun b => ht b _ (by decide)) d k p).reply
  case reload id format => exact (hk.reload hR id format).reply
  case command id args => exact hk.command hR hg (fun b => ht b _ (by decide)) id args
  case refresh id => exact hk.refresh hR id
  case supply path content => exact hk.supply hR path content
  case remove path => exact ⟨rfl, hk.surround hR (fun h => { h with files := h.files.remove path }) fun _ => rfl⟩
  case setEnvironment environment => exact ⟨rfl, hk.surround hR (fun h => { h with environment }) fun _ => rfl⟩
  all_goals exact mild.elim

section Performing

variable {permitted : Act ξ → Prop} {behave : Behaviour ξ σ} (hk : Kindred T R)
  (keeps : ∀ x e, (behave x e).Keeps permitted) (overlooks : ∀ x e, (behave x e).Overlooks S)
  (hS : ∀ h h', R h h' → S h h')

include hk keeps overlooks hS

theorem respects_of_agree {n : Nat} (acts : ∀ {a h h'}, permitted a → R h h' →
    Agree R (Host.perform behave n a h) (Host.perform behave n a h')) : Respects R (behave.guests n) :=
  fun x e _ _ hR => Program.run_agree (keeps x e) (overlooks x e) hS (fun _ _ m hR => hk.memory hR m)
    (fun _ _ _ permit hR => acts permit hR) hR

theorem perform_agree (carryOut : ∀ guests, Respects R guests → ∀ a h h', permitted a → R h h' →
      Agree R (a.carryOut guests h) (a.carryOut guests h')) (n : Nat) {a : Act ξ} (permit : permitted a) (hR : R h h') :
    Agree R (Host.perform behave n a h) (Host.perform behave n a h') := by
  induction n generalizing a h h' with
  | zero      => exact ⟨rfl, hR⟩
  | succ n ih => exact carryOut _ (respects_of_agree hk keeps overlooks hS ih) a h h' permit hR

end Performing

theorem respects_of_overlooks {behave : Behaviour ξ σ} (hk : Kindred T R) (mild : ∀ x e, (behave x e).Keeps (Act.Mild L))
    (overlooks : ∀ x e, (behave x e).Overlooks S) (hS : ∀ h h', R h h' → S h h')
    (ht : ∀ b topic, topic ≠ chatTopic → T b topic) (n : Nat) : Respects R (behave.guests n) :=
  respects_of_agree hk mild overlooks hS fun mild' hR =>
    perform_agree hk mild overlooks hS (fun _ hg _ _ _ mild hR => hk.mild hR hg ht mild) n mild' hR

end Host
end Chatline
