import Chatline.Proofs.Dispatch.Chronicle
import Chatline.Proofs.Dispatch.Ledger
import Chatline.Proofs.Lifecycle.Apart

namespace Chatline

variable {ξ σ α : Type}

-- What counts in the career of a plugin: that it begins to listen, and that it is disabled. Either comes with
-- the host as it is just before.
inductive Milestone (ξ σ : Type)
  | began (before : Host ξ σ)
  | ended (before : Host ξ σ)

def Host.beginning (h : Host ξ σ) (id : PluginId) : List (Milestone ξ σ) :=
  match h.refresh id with
  | (.error _, _) => []
  | (.ok (), h)   => [.began h]

def Act.milestones (id : PluginId) (guests : Guests ξ σ) (a : Act ξ) (h : Host ξ σ) : List (Milestone ξ σ) :=
  match a, a.opening h with
  | disable id', _             => if id' = id then [.ended h] else []
  | enable id' _, (some em, h) => if id' = id then (em.carryOut guests h).2.beginning id else []
  | _, _                       => []

def Behaviour.career (behave : Behaviour ξ σ) (id : PluginId) (depth : Nat) (p : Program ξ σ α) (h : Host ξ σ) :
    List (Milestone ξ σ) :=
  p.tale (Host.perform behave depth) (behave.chronicle (Act.milestones id) depth) h

theorem Behaviour.mem_career {behave : Behaviour ξ σ} {id : PluginId} {n : Nat} {p : Program ξ σ α}
    {h : Host ξ σ} {m : Milestone ξ σ} : m ∈ behave.career id n p h ↔
      ∃ a h', (a, h') ∈ p.acts (Host.perform behave n) h ∧ ∃ l a' h'',
        Course behave n a h' (l + 1) a' h'' ∧ m ∈ a'.milestones id (behave.guests l) h'' := by
  simp only [career, Program.tale, List.mem_flatMap, Prod.exists, mem_chronicle]

namespace Host

-- Whatever happens to a host in the course of the career of a plugin: the plugin begins to listen, it is
-- disabled, and other things happen apart from it.
inductive Career (id : PluginId) (h₀ : Host ξ σ) : List (Milestone ξ σ) → Host ξ σ → Prop
  | refl : Career id h₀ [] h₀
  | apart {ms h h'} : Career id h₀ ms h → Apart True id h h' → Career id h₀ ms h'
  | listen {ms h} : Career id h₀ ms h → Career id h₀ (ms ++ [.began h]) (h.listen id)
  | disable {ms h} : Career id h₀ ms h → Career id h₀ (ms ++ [.ended h]) (h.disable id)

variable {id : PluginId} {h₀ h h' : Host ξ σ} {ms : List (Milestone ξ σ)} {guests : Guests ξ σ} {em : Emission}

theorem milestones_enable (settings : Option Settings) :
    (∃ k, h.enable guests id settings = (.ok (), k.listen id) ∧
        (Act.enable id settings).milestones id guests h = [.began k]) ∨
      (∃ e, (h.enable guests id settings).1 = .error e) ∧
        (Act.enable id settings).milestones id guests h = [] := by
  simp only [Host.enable, Host.reloadSettings, Act.milestones, Act.opening, Act.reloading]
  cases hp : h.provideDefault id with
  | mk saved h₁ =>
    cases saved with
    | error f => exact .inr ⟨⟨f, rfl⟩, rfl⟩
    | ok written =>
      dsimp only
      cases hs : h₁.settle id settings with
      | mk settled h₂ =>
        cases settled with
        | error f => exact .inr ⟨⟨f, rfl⟩, rfl⟩
        | ok template =>
          dsimp only [Emission.carryOut]
          rw [if_pos rfl, Host.beginning, Host.refresh]
          split
          case h_1 f h₃ _ => exact .inr ⟨⟨f, rfl⟩, rfl⟩
          case h_2 h₃ _ => exact .inl ⟨h₃.refreshVerifiers id, rfl, rfl⟩

namespace Career

theorem silent (hc : Career id h₀ ms h) (ha : Apart True id h h') {ms' : List (Milestone ξ σ)} (none : ms' = []) :
    Career id h₀ (ms ++ ms') h' := by
  rw [none, List.append_nil]
  exact hc.apart ha

theorem opened (hc : Career id h₀ ms h) {a : Act ξ} (he : a.opening h = (none, h')) :
    Career id h₀ (ms ++ a.milestones id guests h) h' := by
  by_cases hd : a = .disable id
  case pos =>
    subst hd
    cases he
    have one : (Act.disable id : Act ξ).milestones id guests h = [.ended h] := if_pos rfl
    rw [one]
    exact hc.disable
  case neg =>
    have ha : Apart True id h (a.opening h).2 := .opening hd fun _ => trivial
    rw [he] at ha
    apply hc.silent ha
    simp only [Act.milestones, he]
    split <;> simp_all

theorem beginning (hc : Career id h₀ ms h) (settings : Option Settings) :
    Career id h₀ (ms ++ h.beginning id) ((Act.enable id settings).closing h) := by
  have refreshed : Changes (· = .bind id) h (h.refresh id).2 := .refresh .refl rfl
  have bound : Apart True id h (h.refresh id).2 := .changes refreshed (fun _ => trivial) nofun nofun
  cases hr : h.refresh id with
  | mk r h' =>
    rw [hr] at bound
    cases r with
    | error e =>
      simp only [Host.beginning, Act.closing, hr]
      exact hc.silent bound rfl
    | ok u =>
      simp only [Host.beginning, Act.closing, hr]
      exact (hc.apart bound).listen

theorem closing (hc : Career id h₀ ms (em.carryOut guests h').2) {a : Act ξ} (he : a.opening h = (some em, h')) :
    Career id h₀ (ms ++ a.milestones id guests h) (a.closing (em.carryOut guests h').2) := by
  by_cases ha : ∃ settings, a = .enable id settings
  case pos =>
    have ⟨settings, ha⟩ := ha
    subst ha
    simp only [Act.milestones, he, if_true]
    exact hc.beginning settings
  case neg =>
    apply hc.silent (.closing fun settings hs => ha ⟨settings, hs⟩)
    simp only [Act.milestones, he]
    split
    case h_1 => cases he
    case h_2 id' settings _ _ _ =>
      have hn : id' ≠ id := fun hi => ha ⟨settings, congrArg (Act.enable · settings) hi⟩
      exact if_neg hn
    case h_3 => rfl

theorem emission {share : Turn ξ σ → List (Milestone ξ σ)} (hc : Career id h₀ ms h)
    (turn : ∀ t ∈ em.turns guests h, ∀ ms, Career id h₀ ms t.before → Career id h₀ (ms ++ share t) t.after) :
    Career id h₀ (ms ++ (em.turns guests h).flatMap share) (em.carryOut guests h).2 :=
  deliver_tells (P := Career id h₀) (fun _ _ _ hc => hc.apart (.note _)) (fun _ _ _ hc => hc.apart (.note _))
    turn (hc.apart (.number em))

theorem carryOut {share : Turn ξ σ → List (Milestone ξ σ)} {a : Act ξ} (hc : Career id h₀ ms h)
    (turn : ∀ t ∈ a.turns guests h, ∀ x, t.subscription.observer = .guest x →
      ∀ ms, Career id h₀ ms t.before → Career id h₀ (ms ++ share t) t.after)
    (other : ∀ t ∈ a.turns guests h, (∀ x, t.subscription.observer ≠ .guest x) → share t = []) :
    Career id h₀ (ms ++ ((a.turns guests h).flatMap share ++ a.milestones id guests h))
      (a.carryOut guests h).2 := by
  have turn : ∀ t ∈ a.turns guests h, ∀ ms, Career id h₀ ms t.before → Career id h₀ (ms ++ share t) t.after := by
    intro t ht ms hb
    cases t.guest_or_plugin with
    | inl guest  => exact turn t ht guest.choose guest.choose_spec ms hb
    | inr plugin => exact hb.silent (.turn ht plugin fun _ => trivial) (other t ht plugin)
  cases a.carryOut_cases guests h with
  | inl silent =>
    have ⟨he, done, nobody⟩ := silent
    rw [done, nobody]
    exact hc.opened he
  | inr announced =>
    have ⟨em, he, done, notified⟩ := announced
    have hd : a ≠ .disable id := fun hd => by cases hd ▸ he
    have opened : Apart True id h (a.opening h).2 := .opening hd fun _ => trivial
    rw [notified] at turn
    rw [done, notified, ← List.append_assoc]
    exact ((hc.apart opened).emission turn).closing he

variable {behave : Behaviour ξ σ}

theorem perform (n : Nat) (a : Act ξ) (hc : Career id h₀ ms h) :
    Career id h₀ (ms ++ behave.chronicle (Act.milestones id) n a h) (Host.perform behave n a h).2 :=
  Behaviour.perform_tells (P := Career id h₀) (fun _ _ _ hc => hc.apart (.same rfl rfl (Nat.le_refl _)))
    (fun _ _ _ _ turn other _ hc => hc.carryOut turn other) n a h ms hc

theorem run (p : Program ξ σ α) (n : Nat) (hc : Career id h₀ ms h) :
    Career id h₀ (ms ++ behave.career id n p h) (p.run (Host.perform behave n) h).2 :=
  p.run_tells (fun _ _ _ hc => hc.apart (.same rfl rfl (Nat.le_refl _)))
    (fun a _ _ _ hc => hc.perform n a) hc

theorem until_ended {earlier later : List (Milestone ξ σ)} {k : Host ξ σ} (hc : Career id h₀ ms h)
    (split : ms = earlier ++ .ended k :: later) : Career id h₀ earlier k := by
  induction hc generalizing later with
  | refl => simp at split
  | apart _ _ ih => exact ih split
  | listen _ ih =>
    cases split_last split with
    | inl last   => cases last.right
    | inr before => exact ih before.choose_spec
  | disable hc ih =>
    cases split_last split with
    | inl last   =>
      cases last.right
      exact last.left ▸ hc
    | inr before => exact ih before.choose_spec

end Career
end Host
end Chatline
