import Chatline.Proofs.Dispatch.Annals
import Chatline.Proofs.Dispatch.Delivery

namespace Chatline

variable {ξ σ α : Type}

-- A juncture, at which someone begins to act, or only looks at the host.
structure Juncture (ξ σ : Type) where
  act  : Option (Act ξ)
  host : Host ξ σ

def Program.junctures (performing : (a : Act ξ) → Host ξ σ → Except Failure a.Reply × Host ξ σ)
    (told : Act ξ → Host ξ σ → List (Juncture ξ σ)) (p : Program ξ σ α) (h : Host ξ σ) : List (Juncture ξ σ) :=
  p.tale performing (fun a h => ⟨none, h⟩ :: told a h) h ++ [⟨none, (p.run performing h).2⟩]

namespace Behaviour

def steps (behave : Behaviour ξ σ) : Nat → Act ξ → Host ξ σ → List (Juncture ξ σ)
  | 0, _, _         => []
  | depth + 1, a, h =>
    ⟨some a, h⟩ :: (a.turns (behave.guests depth) h).flatMap fun t =>
      match t.subscription.observer with
      | .guest x => (behave x t.event).junctures (Host.perform behave depth) (behave.steps depth) t.before
      | _        => []

def junctures (behave : Behaviour ξ σ) (depth : Nat) (p : Program ξ σ α) (h : Host ξ σ) : List (Juncture ξ σ) :=
  p.junctures (Host.perform behave depth) (behave.steps depth) h

end Behaviour

theorem Program.mem_junctures {performing : (a : Act ξ) → Host ξ σ → Except Failure a.Reply × Host ξ σ}
    {told : Act ξ → Host ξ σ → List (Juncture ξ σ)} {p : Program ξ σ α} {a : Act ξ} {h h' : Host ξ σ}
    (hm : ⟨some a, h'⟩ ∈ p.junctures performing told h) :
    ∃ a₁ h₁, (a₁, h₁) ∈ p.acts performing h ∧ ⟨some a, h'⟩ ∈ told a₁ h₁ := by
  cases List.mem_append.mp hm with
  | inr last => cases List.mem_singleton.mp last
  | inl among =>
    have ⟨(a₁, h₁), acted, among⟩ := List.mem_flatMap.mp among
    cases List.mem_cons.mp among with
    | inl looked => cases looked
    | inr told   => exact ⟨a₁, h₁, acted, told⟩

theorem Behaviour.mem_steps {behave : Behaviour ξ σ} {n : Nat} {a a' : Act ξ} {h h' : Host ξ σ}
    (hm : ⟨some a', h'⟩ ∈ behave.steps n a h) : ∃ m, Course behave n a h (m + 1) a' h' := by
  induction n generalizing a h with
  | zero => cases hm
  | succ n ih =>
    cases hm with
    | head      => exact ⟨n, .refl⟩
    | tail _ hm =>
      have ⟨t, ht, hm⟩ := List.mem_flatMap.mp hm
      split at hm
      case h_1 x hx =>
        have ⟨a₁, h₁, act, told⟩ := Program.mem_junctures hm
        have ⟨m, course⟩ := ih told
        exact ⟨m, .nest ht hx act course⟩
      case h_2 => cases hm

def Act.started (a : Act ξ) (h : Host ξ σ) : Host ξ σ :=
  match a.opening h with
  | (some em, h) => em.numbered h
  | (none, h)    => h

namespace Host

structure Onward (h h' : Host ξ σ) : Prop where
  fresh    : h.fresh ≤ h'.fresh
  sequence : ∀ b, (h.bus b).sequence ≤ (h'.bus b).sequence
  log      : h.log <+: h'.log

namespace Onward

variable {h h₁ h₂ h₃ : Host ξ σ}

theorem refl : Onward h h where
  fresh    := Nat.le_refl _
  sequence := fun _ => Nat.le_refl _
  log      := List.prefix_rfl

theorem trans (h₁₂ : Onward h₁ h₂) (h₂₃ : Onward h₂ h₃) : Onward h₁ h₃ where
  fresh    := Nat.le_trans h₁₂.fresh h₂₃.fresh
  sequence := fun b => Nat.le_trans (h₁₂.sequence b) (h₂₃.sequence b)
  log      := h₁₂.log.trans h₂₃.log

theorem later (hl : Later h₁ h₂) (fresh : h₁.fresh ≤ h₂.fresh) : Onward h₁ h₂ where
  fresh    := fresh
  sequence := hl.sequence_le
  log      :=
    have ⟨rs, he, _⟩ := hl.logs
    ⟨rs, he.symm⟩

theorem changes {may : Change ξ → Prop} (hc : Changes may h₁ h₂) : Onward h₁ h₂ :=
  .later (Later.refl.changes hc) hc.fresh_le

theorem note (r : Record) : Onward h (h.note r) where
  fresh    := Nat.le_refl _
  sequence := fun _ => Nat.le_refl _
  log      := List.prefix_append _ _

end Onward

structure Beside (h h' : Host ξ σ) : Prop extends Onward h h' where
  directories : h'.directories = h.directories
  templates   : ∀ id, (h'.plugin id).template = (h.plugin id).template

namespace Beside

variable {h h₁ h₂ h₃ : Host ξ σ}

theorem refl : Beside h h where
  toOnward    := .refl
  directories := rfl
  templates _ := rfl

theorem trans (h₁₂ : Beside h₁ h₂) (h₂₃ : Beside h₂ h₃) : Beside h₁ h₃ where
  toOnward    := h₁₂.toOnward.trans h₂₃.toOnward
  directories := h₂₃.directories.trans h₁₂.directories
  templates id := (h₂₃.templates id).trans (h₁₂.templates id)

theorem changes {may : Change ξ → Prop} (hc : Changes may h₁ h₂) (hf : ¬may .found) (hj : ¬may .join)
    (he : ∀ d, ¬may (.enter d)) (hl : ∀ id, ¬may (.load id)) : Beside h₁ h₂ where
  toOnward    := .changes hc
  directories := hc.directories hf he
  templates   := fun id => (hc.plugin (.inr hj)).template.resolve_left (hl id)

theorem note (r : Record) : Beside h (h.note r) where
  toOnward    := .note r
  directories := rfl
  templates _ := rfl

theorem memory {m : σ} : Beside h { h with memory := m } :=
  have kept : Changes (· = .surround) h { h with memory := m } := .surround .refl rfl (Nat.le_refl _)
  changes kept nofun nofun nofun nofun

theorem subscribe (b : BusId) (topic : String) (priority : Priority) (observer : Observer ξ) :
    Beside h (h.subscribe b topic priority observer).2 :=
  have subscribed : Changes (· = .subscribe b topic priority observer) h _ := .subscribe .refl rfl
  changes subscribed nofun nofun nofun nofun

theorem directory (hb : Beside h₁ h₂) (d : DirectoryId) : h₂.directory d = h₁.directory d := by
  rw [Host.directory, Host.directory, hb.directories]

theorem closing (a : Act ξ) : Beside h (a.closing h) :=
  changes (a.closing_changes h) nofun nofun nofun nofun

theorem turn {a : Act ξ} {guests : Guests ξ σ} {t : Turn ξ σ} (ht : t ∈ a.turns guests h)
    (ho : ∀ x, t.subscription.observer ≠ .guest x) : Beside t.before t.after :=
  changes (t.changes ht ho) nofun nofun nofun nofun

end Beside

-- Junctures that have led from one host to another. Whatever else has happened has left the directories alone.
inductive Trail (h₀ : Host ξ σ) : List (Juncture ξ σ) → Host ξ σ → Prop
  | refl : Trail h₀ [] h₀
  | beside {ms h h'} : Trail h₀ ms h → Beside h h' → Trail h₀ ms h'
  | look {ms h} : Trail h₀ ms h → Trail h₀ (ms ++ [⟨none, h⟩]) h
  | begin {ms h} (a : Act ξ) : Trail h₀ ms h → Trail h₀ (ms ++ [⟨some a, h⟩]) (a.started h)

namespace Trail

variable {h₀ h h' : Host ξ σ} {ms : List (Juncture ξ σ)} {guests : Guests ξ σ} {behave : Behaviour ξ σ}

theorem split (ht : Trail h₀ ms h) {earlier later : List (Juncture ξ σ)} {m : Juncture ξ σ}
    (he : ms = earlier ++ m :: later) : Trail h₀ earlier m.host ∧ Trail m.host (m :: later) h := by
  induction ht generalizing later with
  | refl => simp at he
  | beside _ hb ih =>
    have ⟨before, after⟩ := ih he
    exact ⟨before, after.beside hb⟩
  | look ht ih =>
    cases split_concat he with
    | inl last =>
      obtain ⟨rfl, rfl, rfl⟩ := last
      exact ⟨ht, refl.look⟩
    | inr before =>
      obtain ⟨later', rfl, among⟩ := before
      have ⟨before, after⟩ := ih among
      exact ⟨before, after.look⟩
  | begin a ht ih =>
    cases split_concat he with
    | inl last =>
      obtain ⟨rfl, rfl, rfl⟩ := last
      exact ⟨ht, refl.begin a⟩
    | inr before =>
      obtain ⟨later', rfl, among⟩ := before
      have ⟨before, after⟩ := ih among
      exact ⟨before, after.begin a⟩

theorem between (ht : Trail h₀ ms h) {earlier between later : List (Juncture ξ σ)} {m m' : Juncture ξ σ}
    (he : ms = earlier ++ m :: (between ++ m' :: later)) : Trail m.host (m :: between) m'.host :=
  have reached : Trail h₀ (earlier ++ m :: between) m'.host := (ht.split (by simpa using he)).left
  (reached.split rfl).right

theorem carryOut {share : Turn ξ σ → List (Juncture ξ σ)} {a : Act ξ} (ht : Trail h₀ ms h)
    (turn : ∀ t ∈ a.turns guests h, ∀ x, t.subscription.observer = .guest x →
      ∀ ms, Trail h₀ ms t.before → Trail h₀ (ms ++ share t) t.after)
    (other : ∀ t ∈ a.turns guests h, (∀ x, t.subscription.observer ≠ .guest x) → share t = []) :
    Trail h₀ (ms ++ ⟨some a, h⟩ :: (a.turns guests h).flatMap share) (a.carryOut guests h).2 := by
  have turn : ∀ t ∈ a.turns guests h, ∀ ms, Trail h₀ ms t.before → Trail h₀ (ms ++ share t) t.after := by
    intro t hm ms hb
    cases t.guest_or_plugin with
    | inl guest  => exact turn t hm guest.choose guest.choose_spec ms hb
    | inr plugin =>
      rw [other t hm plugin, List.append_nil]
      exact hb.beside (.turn hm plugin)
  have begun := ht.begin a
  rw [Act.started] at begun
  cases a.carryOut_cases guests h with
  | inl silent =>
    have ⟨he, done, nobody⟩ := silent
    rw [he] at begun
    rw [done, nobody, List.flatMap_nil]
    exact begun
  | inr announced =>
    have ⟨em, he, done, notified⟩ := announced
    rw [he] at begun
    rw [notified] at turn
    rw [done, notified, List.append_cons]
    have delivered : Trail h₀ (ms ++ [⟨some a, h⟩] ++ (em.turns guests (a.opening h).2).flatMap share)
        (em.carryOut guests (a.opening h).2).2 :=
      deliver_tells (P := Trail h₀) (fun _ _ _ ht => ht.beside (.note _)) (fun _ _ _ ht => ht.beside (.note _))
        turn begun
    exact delivered.beside (.closing a)

theorem program {performing : (a : Act ξ) → Host ξ σ → Except Failure a.Reply × Host ξ σ}
    {told : Act ξ → Host ξ σ → List (Juncture ξ σ)} (p : Program ξ σ α)
    (acts : ∀ a h ms, Trail h₀ ms h → Trail h₀ (ms ++ told a h) (performing a h).2)
    (ht : Trail h₀ ms h) : Trail h₀ (ms ++ p.junctures performing told h) (p.run performing h).2 := by
  have looked (a : Act ξ) (k : Host ξ σ) (ms : List (Juncture ξ σ)) (ht : Trail h₀ ms k) :
      Trail h₀ (ms ++ ⟨none, k⟩ :: told a k) (performing a k).2 := by
    have ht := acts a k _ ht.look
    rwa [List.append_assoc] at ht
  have run := p.run_tells (P := Trail h₀) (fun _ _ _ ht => ht.beside .memory) (fun a k _ ms => looked a k ms) ht
  rw [Program.junctures, ← List.append_assoc]
  exact run.look

theorem perform (n : Nat) (a : Act ξ) (ht : Trail h₀ ms h) :
    Trail h₀ (ms ++ behave.steps n a h) (Host.perform behave n a h).2 := by
  induction n generalizing a h ms with
  | zero => simpa only [Behaviour.steps, Host.perform, List.append_nil] using ht
  | succ n ih =>
    refine ht.carryOut ?guest ?other
    case guest =>
      intro t hm x hx ms hb
      rw [Behaviour.after_eq_run hm hx]
      simp only [hx]
      exact hb.program _ fun a _ _ ht => ih a ht
    case other =>
      intro t _ hx
      split
      case h_1 x he => exact absurd he (hx x)
      case h_2 => rfl

theorem later_of_mem {p : Program ξ σ α} {n : Nat} {a : Act ξ} (hm : ⟨some a, h'⟩ ∈ behave.junctures n p h) :
    Later h h' :=
  have ⟨_, _, act, told⟩ := Program.mem_junctures hm
  have ⟨_, course⟩ := Behaviour.mem_steps told
  ((Later.refl.run p n).right _ _ act).course course

theorem junctures (p : Program ξ σ α) (n : Nat) (h : Host ξ σ) :
    Trail h (behave.junctures n p h) (p.run (Host.perform behave n) h).2 :=
  Trail.refl.program p fun a _ _ ht => ht.perform n a

end Trail
end Host
end Chatline
