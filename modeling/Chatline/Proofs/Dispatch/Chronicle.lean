import Chatline.Proofs.Dispatch.Course

namespace Chatline

variable {ξ σ α τ : Type}

theorem split_concat {ms earlier later : List τ} {last m : τ}
    (split : ms ++ [last] = earlier ++ m :: later) :
    (later = [] ∧ earlier = ms ∧ last = m) ∨ ∃ later', later = later' ++ [last] ∧ ms = earlier ++ m :: later' := by
  cases List.eq_nil_or_concat later with
  | inl none =>
    subst none
    have ⟨he, hm⟩ := List.append_inj' split rfl
    exact .inl ⟨rfl, he.symm, List.head_eq_of_cons_eq hm⟩
  | inr some =>
    have ⟨later', l, he⟩ := some
    rw [he, List.concat_eq_append, ← List.cons_append, ← List.append_assoc] at split
    have ⟨before, hl⟩ := List.append_inj' split rfl
    exact .inr ⟨later', by rw [he, List.concat_eq_append, hl], before⟩

theorem split_last {ms earlier later : List τ} {last m : τ}
    (split : ms ++ [last] = earlier ++ m :: later) :
    (earlier = ms ∧ last = m) ∨ ∃ later, ms = earlier ++ m :: later :=
  (split_concat split).imp And.right fun before => ⟨before.choose, before.choose_spec.right⟩

def Program.tale (performing : (a : Act ξ) → Host ξ σ → Except Failure a.Reply × Host ξ σ)
    (told : Act ξ → Host ξ σ → List τ) (p : Program ξ σ α) (h : Host ξ σ) : List τ :=
  (p.acts performing h).flatMap fun (a, h') => told a h'

namespace Behaviour

def share (behave : Behaviour ξ σ) (depth : Nat) (told : Act ξ → Host ξ σ → List τ) (t : Turn ξ σ) : List τ :=
  match t.subscription.observer with
  | .guest x => (behave x t.event).tale (Host.perform behave depth) told t.before
  | _        => []

-- What there is to tell of an act, if `own` is what there is to tell of an act without those that it brings
-- about. Acts are told of in the order in which they are completed: first the acts of the guests who are
-- notified, whatever is nested in them, and then the act itself. An act that is refused is not told of.
def chronicle (behave : Behaviour ξ σ) (own : Guests ξ σ → Act ξ → Host ξ σ → List τ) :
    Nat → Act ξ → Host ξ σ → List τ
  | 0, _, _         => []
  | depth + 1, a, h =>
    (a.turns (behave.guests depth) h).flatMap (behave.share depth (chronicle behave own depth)) ++
      own (behave.guests depth) a h

variable {behave : Behaviour ξ σ} {own : Guests ξ σ → Act ξ → Host ξ σ → List τ}

theorem mem_chronicle {n : Nat} {a : Act ξ} {h : Host ξ σ} {r : τ} :
    r ∈ behave.chronicle own n a h ↔
      ∃ m a' h', Course behave n a h (m + 1) a' h' ∧ r ∈ own (behave.guests m) a' h' := by
  constructor
  case mp =>
    intro told
    induction n generalizing a h with
    | zero => cases told
    | succ n ih =>
      cases List.mem_append.mp told with
      | inr told => exact ⟨n, a, h, .refl, told⟩
      | inl told =>
        have ⟨t, ht, told⟩ := List.mem_flatMap.mp told
        simp only [share] at told
        split at told
        case h_1 x hx =>
          have ⟨(a₁, h₁), hm, told⟩ := List.mem_flatMap.mp told
          have ⟨m, a', h', hc, hr⟩ := ih told
          exact ⟨m, a', h', .nest ht hx hm hc, hr⟩
        case h_2 => cases told
  case mpr =>
    intro ⟨m, a', h', hc, hr⟩
    generalize hk : m + 1 = k at hc
    induction hc with
    | refl =>
      subst hk
      exact List.mem_append_right _ hr
    | nest ht hx hm _ ih =>
      refine List.mem_append_left _ (List.mem_flatMap.mpr ⟨_, ht, ?_⟩)
      simp only [share, hx]
      exact List.mem_flatMap.mpr ⟨_, hm, ih hr hk⟩

end Behaviour

theorem Host.deliver_tells {P : List τ → Host ξ σ → Prop} {share : Turn ξ σ → List τ} {guests : Guests ξ σ}
    {b : BusId} {e : Envelope} {ss : List (Subscription (Observer ξ))} {p : Payload} {h : Host ξ σ}
    (delivered : ∀ rs h s, P rs h → P rs (h.note (.delivered b e s)))
    (failed : ∀ rs h f, P rs h → P rs (h.note (.handlerFailed b e f)))
    (turn : ∀ t ∈ turns guests b e ss p h, ∀ rs, P rs t.before → P (rs ++ share t) t.after)
    {rs : List τ} (hP : P rs h) :
    P (rs ++ (turns guests b e ss p h).flatMap share) (deliver guests b e ss p h).2 := by
  induction ss generalizing p h rs with
  | nil => simpa only [turns, deliver, List.flatMap_nil, List.append_nil] using hP
  | cons s ss ih =>
    have after : P (rs ++ share (h.turn guests b e s p)) (h.turn guests b e s p).after :=
      turn _ (.head _) rs (delivered rs h s.serial hP)
    have noted : P (rs ++ share (h.turn guests b e s p))
        ((h.turn guests b e s p).after.noteFailure b e (h.turn guests b e s p).reaction.failure) :=
      noteFailure_preserves after (fun f => failed _ _ f after) _
    have rest := ih (fun t ht => turn t (.tail _ ht)) noted
    rwa [List.append_assoc] at rest

namespace Program

variable {performing : (a : Act ξ) → Host ξ σ → Except Failure a.Reply × Host ξ σ}
  {told : Act ξ → Host ξ σ → List τ}

theorem run_tells {P : List τ → Host ξ σ → Prop} (p : Program ξ σ α) {h : Host ξ σ}
    (memory : ∀ rs h m, P rs h → P rs { h with memory := m })
    (acts : ∀ a h', (a, h') ∈ p.acts performing h → ∀ rs, P rs h' → P (rs ++ told a h') (performing a h').2)
    {rs : List τ} (hP : P rs h) :
    P (rs ++ p.tale performing told h) (p.run performing h).2 := by
  induction p generalizing h rs with
  | done a         => simpa only [tale, Program.acts, run, List.flatMap_nil, List.append_nil] using hP
  | look next ih   => exact ih h acts hP
  | keep m next ih => exact ih acts (memory rs h m hP)
  | act a next ih  =>
    have rest := ih _ (fun a' h' hm => acts a' h' (.tail _ hm)) (acts a h (.head _) rs hP)
    rwa [List.append_assoc] at rest

theorem acts_tell {P : List τ → Host ξ σ → Prop} {p : Program ξ σ α} {h h' : Host ξ σ} {a : Act ξ}
    {earlier later : List (Act ξ × Host ξ σ)} (split : p.acts performing h = earlier ++ (a, h') :: later)
    (memory : ∀ rs h m, P rs h → P rs { h with memory := m })
    (acts : ∀ a h', (a, h') ∈ p.acts performing h → ∀ rs, P rs h' → P (rs ++ told a h') (performing a h').2)
    {rs : List τ} (hP : P rs h) : P (rs ++ earlier.flatMap fun (a, h') => told a h') h' := by
  induction p generalizing h rs earlier with
  | done a         => cases earlier <;> cases split
  | look next ih   => exact ih h split acts hP
  | keep m next ih => exact ih split acts (memory rs h m hP)
  | act a₁ next ih =>
    cases earlier with
    | nil =>
      cases split
      rwa [List.flatMap_nil, List.append_nil]
    | cons x earlier =>
      have ⟨first, others⟩ := List.cons.inj split
      subst first
      have rest := ih _ others (fun a' h' hm => acts a' h' (.tail _ hm)) (acts a₁ h (.head _) rs hP)
      rwa [List.append_assoc] at rest

end Program

-- The induction over the levels of nesting, with all that is told of the acts that come about: whatever holds
-- after an act if it holds after the turns of those who are notified, holds after acts of any depth.
theorem Behaviour.perform_tells {P : List τ → Host ξ σ → Prop} {behave : Behaviour ξ σ}
    {own : Guests ξ σ → Act ξ → Host ξ σ → List τ}
    (memory : ∀ rs h m, P rs h → P rs { h with memory := m })
    (step : ∀ guests share (a : Act ξ) h,
      (∀ t ∈ a.turns guests h, ∀ x, t.subscription.observer = .guest x →
        ∀ rs, P rs t.before → P (rs ++ share t) t.after) →
      (∀ t ∈ a.turns guests h, (∀ x, t.subscription.observer ≠ .guest x) → share t = []) →
      ∀ rs, P rs h → P (rs ++ ((a.turns guests h).flatMap share ++ own guests a h)) (a.carryOut guests h).2)
    (n : Nat) (a : Act ξ) (h : Host ξ σ) (rs : List τ) (hP : P rs h) :
    P (rs ++ behave.chronicle own n a h) (Host.perform behave n a h).2 := by
  induction n generalizing a h rs with
  | zero => simpa only [chronicle, Host.perform, List.append_nil] using hP
  | succ n ih =>
    -- What a guest tells is what its own acts have told, one level further down.
    refine step (behave.guests n) (behave.share n (behave.chronicle own n)) a h ?guest ?other rs hP
    case guest =>
      intro t ht x hx rs hb
      rw [after_eq_run ht hx]
      simp only [share, hx]
      exact Program.run_tells _ memory (fun a' h' _ rs => ih a' h' rs) hb
    case other =>
      intro t _ hx
      simp only [share]

end Chatline
