import Chatline.Bus

namespace Chatline

variable {ω : Type}

def Subscription.Before (s t : Subscription ω) : Prop :=
  s.priority.rank < t.priority.rank ∨ s.priority.rank = t.priority.rank ∧ s.serial < t.serial

namespace Bus

-- The subscriptions of a bus are in the order of delivery, and their serial numbers have been given out.
structure Orderly (b : Bus ω) : Prop where
  ordered : b.subscriptions.Pairwise Subscription.Before
  counted : ∀ s ∈ b.subscriptions, s.serial < b.subscribed

theorem mem_insert {s t : Subscription ω} {ss : List (Subscription ω)} :
    t ∈ insert s ss ↔ t = s ∨ t ∈ ss := by
  induction ss with
  | nil => simp [insert]
  | cons u us ih =>
    simp only [insert]
    split
    case isTrue => rw [List.mem_cons, ih, List.mem_cons, or_left_comm]
    case isFalse => rw [List.mem_cons]

theorem perm_insert (s : Subscription ω) (ss : List (Subscription ω)) : (insert s ss).Perm (ss ++ [s]) := by
  induction ss with
  | nil => exact .refl _
  | cons t ts ih =>
    simp only [insert]
    split
    case isTrue => exact ih.cons t
    case isFalse => exact (List.perm_append_singleton s (t :: ts)).symm

theorem pairwise_insert {R : Subscription ω → Subscription ω → Prop} {s : Subscription ω}
    {ss : List (Subscription ω)} (hR : ∀ t u, R t u → t.priority.rank ≤ u.priority.rank)
    (low : ∀ t ∈ ss, t.priority.rank ≤ s.priority.rank → R t s)
    (high : ∀ t, s.priority.rank < t.priority.rank → R s t) (hs : ss.Pairwise R) :
    (insert s ss).Pairwise R := by
  induction ss with
  | nil => exact List.pairwise_singleton _ _
  | cons t ts ih =>
    have ⟨ht, hts⟩ := List.pairwise_cons.mp hs
    simp only [insert]
    split
    case isTrue hr =>
      refine List.pairwise_cons.mpr ⟨fun u hu => ?_, ih (fun u hu => low u (.tail _ hu)) hts⟩
      cases mem_insert.mp hu with
      | inl he =>
        subst he
        exact low t (.head _) hr
      | inr hu => exact ht u hu
    case isFalse hr =>
      refine List.pairwise_cons.mpr ⟨fun u hu => high u ?_, hs⟩
      cases hu with
      | head => omega
      | tail _ hu =>
        have hu := hR t u (ht u hu)
        omega

theorem rank_le_of_before {s t : Subscription ω} (h : s.Before t) : s.priority.rank ≤ t.priority.rank := by
  simp only [Subscription.Before] at h
  omega

theorem mem_subscribe {b : Bus ω} {topic : String} {priority : Priority} {observer : ω}
    {s : Subscription ω} : s ∈ (b.subscribe topic priority observer).subscriptions ↔
      s = { serial := b.subscribed, topic, priority, observer } ∨ s ∈ b.subscriptions :=
  mem_insert

theorem mem_unsubscribe {b : Bus ω} {serial : Nat} {s : Subscription ω} :
    s ∈ (b.unsubscribe serial).subscriptions ↔ s ∈ b.subscriptions ∧ s.serial ≠ serial := by
  simp [unsubscribe]

theorem isLive_iff {b : Bus ω} {serial : Nat} :
    b.isLive serial ↔ ∃ s ∈ b.subscriptions, s.serial = serial := by
  simp [isLive]

theorem unsubscribe_of_not_isLive {b : Bus ω} {serial : Nat} (dead : ¬b.isLive serial) :
    b.unsubscribe serial = b := by
  have others : b.subscriptions.filter (·.serial ≠ serial) = b.subscriptions := by
    simpa [isLive] using dead
  rw [Bus.unsubscribe, others]

theorem mem_live {b : Bus ω} {topic : String} {s : Subscription ω} :
    s ∈ b.live topic ↔ s ∈ b.subscriptions ∧ s.topic = topic := by
  simp [live]

def Lists (b : Bus ω) (serial : Nat) (topic : String) (priority : Priority) : Prop :=
  ∃ s ∈ b.subscriptions, s.serial = serial ∧ s.topic = topic ∧ s.priority = priority

theorem lists_subscribe {b : Bus ω} {topic t : String} {priority p : Priority} {observer : ω} {n : Nat} :
    (b.subscribe topic priority observer).Lists n t p ↔
      b.subscribed = n ∧ topic = t ∧ priority = p ∨ b.Lists n t p := by
  simp only [Lists, mem_subscribe, or_and_right, exists_or, exists_eq_left]

theorem lists_unsubscribe {b : Bus ω} {serial n : Nat} {t : String} {p : Priority} :
    (b.unsubscribe serial).Lists n t p ↔ b.Lists n t p ∧ n ≠ serial := by
  simp only [Lists, mem_unsubscribe]
  constructor
  case mp => exact fun ⟨s, ⟨hm, hn⟩, hs, ht⟩ => ⟨⟨s, hm, hs, ht⟩, hs ▸ hn⟩
  case mpr => exact fun ⟨⟨s, hm, hs, ht⟩, hn⟩ => ⟨s, ⟨hm, hs ▸ hn⟩, hs, ht⟩

namespace Orderly

variable {b : Bus ω}

theorem fresh : (fresh : Bus ω).Orderly where
  ordered := .nil
  counted := fun _ hs => nomatch hs

theorem subscribe (h : b.Orderly) (topic : String) (priority : Priority) (observer : ω) :
    (b.subscribe topic priority observer).Orderly where
  ordered := by
    apply pairwise_insert (fun _ _ => rank_le_of_before) _ (fun _ => .inl) h.ordered
    intro t ht hr
    have hn := h.counted t ht
    simp only [Subscription.Before]
    dsimp only at hr ⊢
    omega
  counted := by
    intro s hs
    cases mem_subscribe.mp hs with
    | inl he =>
      subst he
      exact Nat.lt_succ_self _
    | inr hs => exact Nat.lt_succ_of_lt (h.counted s hs)

theorem unsubscribe (h : b.Orderly) (serial : Nat) : (b.unsubscribe serial).Orderly where
  ordered := h.ordered.filter _
  counted := fun s hs => h.counted s (mem_unsubscribe.mp hs).left

theorem live (h : b.Orderly) (topic : String) : (b.live topic).Pairwise Subscription.Before :=
  h.ordered.filter _

end Orderly

end Bus
end Chatline
