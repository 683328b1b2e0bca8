import Chatline.Proofs.Lifecycle.Reloading

namespace Chatline

variable {ξ σ α τ : Type}

theorem Host.turns_tell {P : List τ → Host ξ σ → Prop} {share : Turn ξ σ → List τ} {guests : Guests ξ σ}
    {b : BusId} {e : Envelope} {ss : List (Subscription (Observer ξ))} {p : Payload} {h : Host ξ σ} {t : Turn ξ σ}
    (ht : t ∈ turns guests b e ss p h)
    (delivered : ∀ rs h s, P rs h → P rs (h.note (.delivered b e s)))
    (failed : ∀ rs h f, P rs h → P rs (h.note (.handlerFailed b e f)))
    (turn : ∀ t ∈ turns guests b e ss p h, ∀ rs, P rs t.before → P (rs ++ share t) t.after)
    {rs : List τ} (hP : P rs h) :
    ∃ told, told ++ share t <+: (turns guests b e ss p h).flatMap share ∧ P (rs ++ told) t.before := by
  induction ss generalizing p h rs with
  | nil => cases ht
  | cons s ss ih =>
    have before : P rs (h.turn guests b e s p).before := delivered rs h s.serial hP
    cases ht with
    | head      => exact ⟨[], List.prefix_append _ _, by rwa [List.append_nil]⟩
    | tail _ ht =>
      have after := turn _ (.head _) rs before
      have noted : P (rs ++ share (h.turn guests b e s p))
          ((h.turn guests b e s p).after.noteFailure b e (h.turn guests b e s p).reaction.failure) :=
        noteFailure_preserves after (fun f => failed _ _ f after) _
      have ⟨told, among, there⟩ := ih ht (fun t ht => turn t (.tail _ ht)) noted
      refine ⟨share (h.turn guests b e s p) ++ told, ?_, by rwa [← List.append_assoc]⟩
      rw [List.append_assoc]
      exact (List.prefix_append_right_inj _).mpr among

def Milestone.begins : Milestone ξ σ → Bool
  | began _ => true
  | ended _ => false

namespace Host.Career

variable {id : PluginId} {h₀ h h' : Host ξ σ} {ms : List (Milestone ξ σ)} {behave : Behaviour ξ σ} {n m : Nat}
  {a a' : Act ξ}

theorem program (hc : Career id h₀ ms h) (p : Program ξ σ α) (n : Nat) {a : Act ξ}
    (hm : (a, h') ∈ p.acts (Host.perform behave n) h) :
    ∃ before, before ++ behave.chronicle (Act.milestones id) n a h' <+: behave.career id n p h ∧
      Career id h₀ (ms ++ before) h' := by
  have ⟨earlier, later, split⟩ := List.append_of_mem hm
  refine ⟨_, ?_, Program.acts_tell (P := Career id h₀) split
    (fun _ _ _ hc => hc.apart (.same rfl rfl (Nat.le_refl _))) (fun a _ _ _ hc => hc.perform n a) hc⟩
  rw [Behaviour.career, Program.tale, split, List.flatMap_append, List.flatMap_cons]
  exact (List.prefix_append_right_inj _).mpr (List.prefix_append _ _)

theorem turn {t : Turn ξ σ} (hc : Career id h₀ ms t.before) (ht : t ∈ a.turns (behave.guests n) h) :
    Career id h₀ (ms ++ behave.share n (behave.chronicle (Act.milestones id) n) t) t.after := by
  cases t.guest_or_plugin with
  | inl guest  =>
    have ⟨x, hx⟩ := guest
    rw [Behaviour.after_eq_run ht hx]
    simp only [Behaviour.share, hx]
    exact hc.run (behave x t.event) n
  | inr plugin =>
    apply hc.silent (.turn ht plugin fun _ => trivial)
    simp only [Behaviour.share]

theorem course (hc : Career id h₀ ms h) (course : Behaviour.Course behave n a h m a' h') :
    ∃ before, before <+: behave.chronicle (Act.milestones id) n a h ∧ Career id h₀ (ms ++ before) h' := by
  induction course generalizing ms with
  | refl => exact ⟨[], List.nil_prefix, by rwa [List.append_nil]⟩
  | @nest n a h t x a₁ h₁ m a₂ h₂ ht hx hm _ ih =>
    cases a.carryOut_cases (behave.guests n) h with
    | inl silent    => cases silent.right.right ▸ ht
    | inr announced =>
      have ⟨em, he, _, notified⟩ := announced
      have hd : a ≠ .disable id := fun hd => by cases hd ▸ he
      have opened : Apart True id h (a.opening h).2 := .opening hd fun _ => trivial
      have numbered : Career id h₀ ms (em.numbered (a.opening h).2) := (hc.apart opened).apart (.number em)
      have taken : t ∈ em.turns (behave.guests n) (a.opening h).2 := notified ▸ ht
      have turn : ∀ t ∈ em.turns (behave.guests n) (a.opening h).2, ∀ ms, Career id h₀ ms t.before →
          Career id h₀ (ms ++ behave.share n (behave.chronicle (Act.milestones id) n) t) t.after :=
        fun t ht _ hb => hb.turn (notified.symm ▸ ht)
      have ⟨told, shares, before⟩ := turns_tell taken (fun _ _ _ hc => hc.apart (.note _))
        (fun _ _ _ hc => hc.apart (.note _)) turn numbered
      have ⟨acted, acts, acting⟩ := before.program (behave x t.event) n hm
      have ⟨nested, among, there⟩ := ih acting
      have share : behave.share n (behave.chronicle (Act.milestones id) n) t =
          behave.career id n (behave x t.event) t.before := by
        simp only [Behaviour.share, hx]
        rfl
      refine ⟨told ++ (acted ++ nested), ?_, by rwa [← List.append_assoc, ← List.append_assoc]⟩
      rw [share] at shares
      have acts : acted ++ nested <+: behave.career id n (behave x t.event) t.before :=
        ((List.prefix_append_right_inj _).mpr among).trans acts
      have turns : told ++ (acted ++ nested) <+: (em.turns (behave.guests n) (a.opening h).2).flatMap _ :=
        ((List.prefix_append_right_inj _).mpr acts).trans shares
      rw [Behaviour.chronicle, notified]
      exact turns.trans (List.prefix_append _ _)

theorem silent_until (hc : Career id h₀ ms h) (silent : ¬h₀.Observes id) (never : ms.countP Milestone.begins = 0) :
    ¬h.Observes id := by
  induction hc with
  | refl => exact silent
  | apart _ hp ih => exact fun ho => ih never (hp.observes ho)
  | listen => simp [Milestone.begins] at never
  | @disable ms h _ ih =>
    intro ⟨b, s, hs, hi⟩
    rw [List.countP_append] at never
    exact ih (Nat.eq_zero_of_add_eq_zero_right never) ⟨b, s, (mem_bus_disable.mp hs).left, hi⟩

theorem resolver_unique (hc : Career id h₀ ms h) (silent : ¬h₀.Observes id) (once : ms.countP Milestone.begins ≤ 1)
    {b : BusId} {s s' : Subscription (Observer ξ)} (hs : s ∈ (h.bus b).subscriptions)
    (hs' : s' ∈ (h.bus b).subscriptions) (ho : s.observer = .resolver id) (ho' : s'.observer = .resolver id) :
    s = s' := by
  induction hc with
  | refl => exact absurd ⟨b, s, hs, by rw [ho]; rfl⟩ silent
  | @apart ms h h' hc hp ih =>
    have old {s : Subscription (Observer ξ)} (hs : s ∈ (h'.bus b).subscriptions) (ho : s.observer = .resolver id) :
        s ∈ (h.bus b).subscriptions :=
      (hp.subscriptions b s hs).resolve_right fun new => new.right (by rw [ho]; rfl)
    exact ih once (old hs ho) (old hs' ho')
  | @listen ms h hc ih =>
    rw [List.countP_append] at once
    have never : ms.countP Milestone.begins = 0 := Nat.le_zero.mp (Nat.le_of_succ_le_succ once)
    have vacant : ¬h.Observes id := hc.silent_until silent never
    have joined := joined_listen h id
    have new {s : Subscription (Observer ξ)} (hs : s ∈ ((h.listen id).bus b).subscriptions)
        (ho : s.observer = .resolver id) : s = { serial := (h.bus (h.plugin id).bus).subscribed + 1
                                                 topic := chatTopic
                                                 priority := .highest
                                                 observer := .resolver id } := by
      have foreign : s ∉ (h.bus b).subscriptions := fun hs => vacant ⟨b, s, hs, by rw [ho]; rfl⟩
      by_cases hb : b = (h.plugin id).bus
      case neg =>
        rw [joined.others b hb] at hs
        exact absurd hs foreign
      case pos =>
        subst hb
        have hs := (List.mem_append.mp (joined.subscriptions.mem_iff.mp hs)).resolve_left foreign
        simp only [enlisted, List.mem_cons, List.not_mem_nil, or_false] at hs
        obtain rfl | rfl | rfl | rfl := hs
        case inr.inl => rfl
        all_goals cases ho
    rw [new hs ho, new hs' ho']
  | @disable ms h hc ih =>
    rw [List.countP_append] at once
    exact ih (Nat.le_trans (Nat.le_add_right _ _) once) (mem_bus_disable.mp hs).left (mem_bus_disable.mp hs').left

end Host.Career

theorem Behaviour.resolver_unique {behave : Behaviour ξ σ} {id : PluginId} {n m : Nat} {h h' h₀ : Host ξ σ}
    {a₀ a : Act ξ} (p : Program ξ σ α) (silent : ¬h.Observes id)
    (once : (behave.career id n p h).countP Milestone.begins ≤ 1) (act : (a₀, h₀) ∈ p.acts (Host.perform behave n) h)
    (course : Course behave n a₀ h₀ m a h') {b : BusId} {s s' : Subscription (Observer ξ)}
    (hs : s ∈ (h'.bus b).subscriptions) (hs' : s' ∈ (h'.bus b).subscriptions)
    (ho : s.observer = .resolver id) (ho' : s'.observer = .resolver id) : s = s' := by
  have new : Host.Career id h [] h := .refl
  have ⟨before, among, began⟩ := new.program p n act
  have ⟨nested, within, here⟩ := began.course course
  have beginning : before ++ nested <+: behave.career id n p h :=
    ((List.prefix_append_right_inj _).mpr within).trans among
  exact here.resolver_unique silent (Nat.le_trans beginning.sublist.countP_le once) hs hs' ho ho'

end Chatline
