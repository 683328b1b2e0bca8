import Chatline.Proofs.Dispatch.Aside

namespace Chatline

def Record.event? : Record → Option (BusId × Envelope)
  | emitted b e | delivered b e _ | handlerFailed b e _ => some (b, e)
  | _ => none

variable {ξ σ α : Type}

namespace Host

-- The hosts that may come after a host, as far as its buses are concerned: what happens to them is that
-- someone subscribes or unsubscribes, and that events are numbered and delivered. Only those events are
-- delivered that have been numbered in the meantime.
inductive Later (h₀ : Host ξ σ) : Host ξ σ → Prop
  | refl : Later h₀ h₀
  | aside {h h'} : Later h₀ h → Aside h h' → Later h₀ h'
  | subscribe {h} (b topic priority observer) :
    Later h₀ h → Later h₀ (h.subscribe b topic priority observer).2
  | unsubscribe {h} (id) : Later h₀ h → Later h₀ (h.unsubscribe id)
  | number {h} (em : Emission) : Later h₀ h → Later h₀ (em.numbered h)
  | report {h b e r} :
    Later h₀ h → r.event? = some (b, e) → (h₀.bus b).sequence < e.sequence →
    e.sequence ≤ (h.bus b).sequence → Later h₀ (h.note r)

namespace Later

variable {guests : Guests ξ σ} {h₀ h : Host ξ σ}

theorem counts_le (hl : Later h₀ h) (b : BusId) :
    (h₀.bus b).sequence ≤ (h.bus b).sequence ∧ (h₀.bus b).subscribed ≤ (h.bus b).subscribed := by
  induction hl with
  | refl => exact ⟨Nat.le_refl _, Nat.le_refl _⟩
  | aside _ ha ih => rwa [bus_congr ha.buses]
  | subscribe b' topic priority observer _ ih =>
    rw [bus_subscribe]
    split
    case isTrue he =>
      subst he
      exact ⟨ih.left, Nat.le_succ_of_le ih.right⟩
    case isFalse => exact ih
  | unsubscribe id _ ih =>
    rw [bus_unsubscribe]
    split
    case isTrue he =>
      rw [he.right] at ih
      rwa [he.right]
    case isFalse => exact ih
  | number em _ ih =>
    rw [em.bus_numbered]
    split
    case isTrue he =>
      subst he
      exact ⟨Nat.le_succ_of_le ih.left, ih.right⟩
    case isFalse => exact ih
  | report _ _ _ _ ih => exact ih

theorem sequence_le (hl : Later h₀ h) (b : BusId) : (h₀.bus b).sequence ≤ (h.bus b).sequence :=
  (hl.counts_le b).left

theorem trans {h' : Host ξ σ} (hl : Later h₀ h) (hl' : Later h h') : Later h₀ h' := by
  induction hl' with
  | refl => exact hl
  | aside _ ha ih => exact ih.aside ha
  | subscribe b topic priority observer _ ih => exact ih.subscribe b topic priority observer
  | unsubscribe id _ ih => exact ih.unsubscribe id
  | number em _ ih => exact ih.number em
  | report _ he newer given ih => exact ih.report he (Nat.lt_of_le_of_lt (hl.sequence_le _) newer) given

theorem changes {may : Change ξ → Prop} {h' : Host ξ σ} (hl : Later h₀ h) (hc : Changes may h h') : Later h₀ h' := by
  induction hc
  case refl => exact hl
  case noteAll hr ih => exact ih.aside (.noteAll fun r hm => (hr r hm).left)
  case enter r _ _ hr ih => exact ih.aside ⟨rfl, [r], rfl, by simpa using hr.left⟩
  case load ih => exact ih.aside ⟨rfl, _, rfl, by simp [Record.ofBus]⟩
  case bind rs _ _ _ hr ih => exact ih.aside ⟨rfl, rs, rfl, hr⟩
  case subscribe ih => exact ih.subscribe _ _ _ _
  case unsubscribe s _ _ live ih =>
    have ended := ih.unsubscribe s
    rwa [Host.unsubscribe, if_pos live] at ended
  all_goals
    next ih => exact ih.aside (.silent rfl rfl)

theorem emission {em : Emission} (hl : Later h₀ h) (turn : ∀ t ∈ em.turns guests h, Later t.before t.after) :
    Later h₀ (em.carryOut guests h).2 ∧ ∀ t ∈ em.turns guests h, Later h₀ t.before := by
  have newer : (h₀.bus em.bus).sequence < (em.envelope h).sequence := Nat.lt_succ_of_le (hl.sequence_le _)
  have numbered : (em.envelope h).sequence ≤ ((em.numbered h).bus em.bus).sequence := by
    rw [em.bus_numbered, if_pos rfl]
    exact Nat.le_refl _
  let P (h' : Host ξ σ) : Prop := Later h₀ h' ∧ (em.envelope h).sequence ≤ (h'.bus em.bus).sequence
  have hd : P (em.carryOut guests h).2 ∧ ∀ t ∈ em.turns guests h, P t.before := by
    apply deliver_preserves (P := P)
    case delivered => exact fun h' s ⟨hl, hs⟩ => ⟨hl.report rfl newer hs, hs⟩
    case failed => exact fun h' f ⟨hl, hs⟩ => ⟨hl.report rfl newer hs, hs⟩
    case turn =>
      intro t ht ⟨hl, hs⟩
      exact ⟨hl.trans (turn t ht), Nat.le_trans hs ((turn t ht).sequence_le _)⟩
    case hP => exact ⟨hl.number em, numbered⟩
  exact ⟨hd.left.left, fun t ht => (hd.right t ht).left⟩

theorem opening (hl : Later h₀ h) (a : Act ξ) : Later h₀ (a.opening h).2 :=
  hl.changes (a.opening_changes h)

theorem closing (hl : Later h₀ h) (a : Act ξ) : Later h₀ (a.closing h) :=
  hl.changes (a.closing_changes h)

theorem reacted {a : Act ξ} {t : Turn ξ σ} (ht : t ∈ a.turns guests h)
    (turn : ∀ x, t.subscription.observer = .guest x → Later t.before t.after) : Later t.before t.after := by
  cases t.guest_or_plugin with
  | inl guest  => exact turn guest.choose guest.choose_spec
  | inr plugin => exact changes .refl (t.changes ht plugin)

theorem carryOut {a : Act ξ} (hl : Later h₀ h)
    (turn : ∀ t ∈ a.turns guests h, ∀ x, t.subscription.observer = .guest x → Later t.before t.after) :
    Later h₀ (a.carryOut guests h).2 ∧ ∀ t ∈ a.turns guests h, Later h₀ t.before := by
  have ho := hl.opening a
  have turn : ∀ t ∈ a.turns guests h, Later t.before t.after := fun t ht => reacted ht (turn t ht)
  cases a.carryOut_cases guests h with
  | inl silent =>
    have ⟨_, done, nobody⟩ := silent
    rw [done, nobody]
    exact ⟨ho, fun _ ht => nomatch ht⟩
  | inr announced =>
    have ⟨em, _, done, notified⟩ := announced
    rw [notified] at turn
    rw [done, notified]
    have ⟨hd, ht⟩ := ho.emission turn
    exact ⟨hd.closing a, ht⟩

variable {behave : Behaviour ξ σ}

theorem perform (n : Nat) (a : Act ξ) (hl : Later h₀ h) : Later h₀ (Host.perform behave n a h).2 :=
  Behaviour.perform_preserves (P := Later)
    (fun _ _ _ hl => hl.aside (.silent rfl rfl))
    (fun _ _ _ (_ : True) turn _ hl => (hl.carryOut fun t ht x hx => turn t ht x hx t.before .refl).left)
    (fun _ _ _ _ => trivial) h₀ hl

theorem run (p : Program ξ σ α) (n : Nat) (hl : Later h₀ h) :
    Later h₀ (p.run (Host.perform behave n) h).2 ∧
      ∀ a h', (a, h') ∈ p.acts (Host.perform behave n) h → Later h₀ h' :=
  p.run_preserves (fun _ _ hl => hl.aside (.silent rfl rfl)) (fun a _ _ hl => hl.perform n a) hl

theorem guest {n : Nat} {a : Act ξ} {t : Turn ξ σ} {x : ξ} (ht : t ∈ a.turns (behave.guests n) h)
    (hx : t.subscription.observer = .guest x) : Later t.before t.after := by
  rw [Behaviour.after_eq_run ht hx]
  exact (run _ n .refl).left

theorem turn {n : Nat} {a : Act ξ} {t : Turn ξ σ} (ht : t ∈ a.turns (behave.guests n) h) :
    Later t.before t.after :=
  reacted ht fun _ hx => guest ht hx

theorem before {n : Nat} {a : Act ξ} {t : Turn ξ σ} (hl : Later h₀ h)
    (ht : t ∈ a.turns (behave.guests n) h) : Later h₀ t.before :=
  (hl.carryOut fun _ ht _ hx => guest ht hx).right t ht

theorem course {n m : Nat} {a a' : Act ξ} {h' : Host ξ σ} (hl : Later h₀ h)
    (hc : Behaviour.Course behave n a h m a' h') : Later h₀ h' := by
  induction hc with
  | refl => exact hl
  | nest ht _ hm _ ih => exact ih ((run _ _ (hl.before ht)).right _ _ hm)

end Later
end Host
end Chatline
