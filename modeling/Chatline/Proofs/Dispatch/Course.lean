import Chatline.Proofs.Dispatch.Turn

namespace Chatline

variable {ξ σ α : Type}

namespace Act

def turns (a : Act ξ) (guests : Guests ξ σ) (h : Host ξ σ) : List (Turn ξ σ) :=
  match a.opening h with
  | (none, _)    => []
  | (some em, h) => em.turns guests h

theorem turns_of_opening {a : Act ξ} {guests : Guests ξ σ} {h h' : Host ξ σ} {em : Emission}
    (he : a.opening h = (some em, h')) : a.turns guests h = em.turns guests h' := by
  rw [turns, he]

theorem carryOut_cases (a : Act ξ) (guests : Guests ξ σ) (h : Host ξ σ) :
    (a.opening h = (none, (a.opening h).2) ∧
      (a.carryOut guests h).2 = (a.opening h).2 ∧ a.turns guests h = []) ∨
    ∃ em, a.opening h = (some em, (a.opening h).2) ∧
      (a.carryOut guests h).2 = a.closing (em.carryOut guests (a.opening h).2).2 ∧
        a.turns guests h = em.turns guests (a.opening h).2 := by
  rw [carryOut_snd, outcome, turns]
  cases he : a.opening h with
  | mk sent h' =>
    cases sent with
    | none    => exact .inl ⟨rfl, rfl, rfl⟩
    | some em => exact .inr ⟨em, rfl, rfl, rfl⟩

theorem carryOut_preserves {P : Host ξ σ → Prop} {a : Act ξ} {guests : Guests ξ σ} {h : Host ξ σ}
    (opened : P (a.opening h).2) (number : ∀ (em : Emission) h, P h → P (em.numbered h))
    (delivered : ∀ h b e s, P h → P (h.note (.delivered b e s)))
    (failed : ∀ h b e f, P h → P (h.note (.handlerFailed b e f)))
    (turn : ∀ t ∈ a.turns guests h, P t.before → P t.after) (close : ∀ h, P h → P (a.closing h)) :
    P (a.carryOut guests h).2 ∧ ∀ t ∈ a.turns guests h, P t.before := by
  cases a.carryOut_cases guests h with
  | inl silent =>
    have ⟨_, done, nobody⟩ := silent
    rw [done, nobody]
    exact ⟨opened, fun _ ht => nomatch ht⟩
  | inr announced =>
    have ⟨em, _, done, notified⟩ := announced
    rw [notified] at turn
    rw [done, notified]
    have ⟨kept, before⟩ := Host.deliver_preserves (fun h s => delivered h _ _ s) (fun h f => failed h _ _ f) turn
      (number em _ opened)
    exact ⟨close _ kept, before⟩

theorem turns_react {a : Act ξ} {guests : Guests ξ σ} {h : Host ξ σ} {t : Turn ξ σ}
    (ht : t ∈ a.turns guests h) :
    (t.reaction, t.after) = t.before.react guests t.subscription.observer t.event := by
  simp only [turns] at ht
  split at ht
  case h_1 => cases ht
  case h_2 => exact Host.turns_react ht

end Act

namespace Program

def acts (performing : (a : Act ξ) → Host ξ σ → Except Failure a.Reply × Host ξ σ) :
    Program ξ σ α → Host ξ σ → List (Act ξ × Host ξ σ)
  | done _, _      => []
  | look next, h   => (next h).acts performing h
  | keep m next, h => next.acts performing { h with memory := m }
  | .act a next, h =>
    let (r, h') := performing a h
    (a, h) :: (next r).acts performing h'

variable {performing : (a : Act ξ) → Host ξ σ → Except Failure a.Reply × Host ξ σ}

theorem run_preserves {P : Host ξ σ → Prop} (p : Program ξ σ α) {h : Host ξ σ}
    (memory : ∀ h m, P h → P { h with memory := m })
    (acts : ∀ a h', (a, h') ∈ p.acts performing h → P h' → P (performing a h').2) (hP : P h) :
    P (p.run performing h).2 ∧ ∀ a h', (a, h') ∈ p.acts performing h → P h' := by
  induction p generalizing h with
  | done a         => exact ⟨hP, fun _ _ hm => nomatch hm⟩
  | look next ih   => exact ih h acts hP
  | keep m next ih => exact ih acts (memory h m hP)
  | act a next ih  =>
    have ⟨hr, ha⟩ := ih _ (fun a' h' hm => acts a' h' (.tail _ hm)) (acts a h (.head _) hP)
    constructor
    case left => exact hr
    case right =>
      intro a' h' hm
      cases hm with
      | head      => exact hP
      | tail _ hm => exact ha a' h' hm

end Program

namespace Behaviour

def guests (behave : Behaviour ξ σ) (depth : Nat) : Guests ξ σ :=
  fun x e h => (behave x e).run (Host.perform behave depth) h

variable {behave : Behaviour ξ σ}

theorem perform_succ (depth : Nat) (a : Act ξ) (h : Host ξ σ) :
    Host.perform behave (depth + 1) a h = a.carryOut (behave.guests depth) h :=
  rfl

-- The acts that come about because of an act: the act itself, and the acts of the guests who are notified
-- because of it. The numbers say how many more levels acts may nest.
inductive Course (behave : Behaviour ξ σ) : Nat → Act ξ → Host ξ σ → Nat → Act ξ → Host ξ σ → Prop
  | refl {n a h} : Course behave n a h n a h
  | nest {n a h t x a₁ h₁ m a₂ h₂} :
    t ∈ a.turns (behave.guests n) h → t.subscription.observer = .guest x →
    (a₁, h₁) ∈ (behave x t.event).acts (Host.perform behave n) t.before →
    Course behave n a₁ h₁ m a₂ h₂ → Course behave (n + 1) a h m a₂ h₂

theorem Course.le {n m : Nat} {a a' : Act ξ} {h h' : Host ξ σ} (hc : Course behave n a h m a' h') : m ≤ n := by
  induction hc with
  | refl            => exact Nat.le_refl _
  | nest _ _ _ _ ih => exact Nat.le_succ_of_le ih

theorem after_eq_run {n : Nat} {a : Act ξ} {h : Host ξ σ} {t : Turn ξ σ} {x : ξ}
    (ht : t ∈ a.turns (behave.guests n) h) (hx : t.subscription.observer = .guest x) :
    t.after = ((behave x t.event).run (Host.perform behave n) t.before).2 := by
  have hr := Act.turns_react ht
  rw [hx] at hr
  exact congrArg Prod.snd hr

-- The induction over the levels of nesting, done once: whatever acts keep if the turns of guests keep it,
-- performing them keeps. `P` is a family, so that an act may rely on the turns to keep something else
-- than it keeps itself. Only acts that come about need to be `allowed`.
theorem perform_preserves {ι : Type} {P : ι → Host ξ σ → Prop} {allowed : Act ξ → Host ξ σ → Prop}
    (memory : ∀ i h m, P i h → P i { h with memory := m })
    (step : ∀ n a h, allowed a h →
      (∀ t ∈ a.turns (behave.guests n) h, ∀ x, t.subscription.observer = .guest x →
        ∀ i, P i t.before → P i t.after) →
      ∀ i, P i h → P i (a.carryOut (behave.guests n) h).2)
    {n : Nat} {a : Act ξ} {h : Host ξ σ}
    (course : ∀ m a' h', Course behave n a h m a' h' → allowed a' h') (i : ι) (hP : P i h) :
    P i (Host.perform behave n a h).2 := by
  induction n generalizing a h i with
  | zero => exact hP
  | succ n ih =>
    apply step n a h (course _ _ _ .refl) _ i hP
    intro t ht x hx i hb
    rw [after_eq_run ht hx]
    refine (Program.run_preserves _ (memory i) ?_ hb).left
    intro a' h' hm
    exact ih (fun m a'' h'' hc => course m a'' h'' (.nest ht hx hm hc)) i

end Behaviour
end Chatline
