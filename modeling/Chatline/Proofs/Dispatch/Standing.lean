import Chatline.Proofs.Bus
import Chatline.Proofs.Dispatch.Annals

namespace Chatline

variable {ξ σ ω : Type}

def Subscription.byPriority (s t : Subscription ω) : Bool :=
  s.priority.rank ≤ t.priority.rank

namespace Subscription

variable {s t : Subscription ω} {ss ss' : List (Subscription ω)}

theorem byPriority_trans (s t u : Subscription ω) (hst : s.byPriority t) (htu : t.byPriority u) : s.byPriority u := by
  simp only [byPriority, decide_eq_true_eq] at hst htu ⊢
  omega

theorem byPriority_total (s t : Subscription ω) : s.byPriority t || t.byPriority s := by
  simp only [byPriority, Bool.or_eq_true, decide_eq_true_eq]
  omega

theorem filter_mergeSort (ss : List (Subscription ω)) (rank : Nat) :
    (ss.mergeSort byPriority).filter (·.priority.rank = rank) = ss.filter (·.priority.rank = rank) := by
  let alike : List (Subscription ω) := ss.filter (·.priority.rank = rank)
  have unsorted : alike.Pairwise (fun s t => s.byPriority t) := by
    refine List.pairwise_of_forall_mem_list fun s hs t ht => ?_
    simp_all [alike, byPriority]
  have kept := (List.sublist_mergeSort byPriority_trans byPriority_total unsorted List.filter_sublist).filter
    (·.priority.rank = rank)
  have same : alike.filter (·.priority.rank = rank) = alike := by simp [alike, List.filter_filter]
  rw [same] at kept
  exact (kept.eq_of_length ((List.mergeSort_perm ss byPriority).filter _).length_eq.symm).symm

theorem mergeSort_pairwise (aged : ss.Pairwise (·.serial < ·.serial)) :
    (ss.mergeSort byPriority).Pairwise Before := by
  rw [List.pairwise_iff_forall_sublist]
  intro s t hst
  have ordered : s.priority.rank ≤ t.priority.rank := by
    have sorted := (List.pairwise_mergeSort byPriority_trans byPriority_total ss).sublist hst
    simpa [byPriority] using sorted
  cases Nat.lt_or_eq_of_le ordered with
  | inl lower => exact .inl lower
  | inr equal =>
    have alike := hst.filter (·.priority.rank = t.priority.rank)
    rw [filter_mergeSort, List.filter_cons_of_pos (by simpa using equal), List.filter_cons_of_pos (by simp)] at alike
    have older := aged.sublist (alike.trans List.filter_sublist)
    exact .inr ⟨equal, by simpa using older⟩

theorem Before.asymm (hst : s.Before t) : ¬t.Before s := by
  simp only [Before] at hst ⊢
  omega

theorem eq_mergeSort (ordered : ss.Pairwise Before) (aged : ss'.Pairwise (·.serial < ·.serial))
    (perm : ss.Perm ss') : ss = ss'.mergeSort byPriority :=
  List.Perm.eq_of_pairwise (fun _ _ _ _ hst hts => absurd hts hst.asymm) ordered (mergeSort_pairwise aged)
    (perm.trans (List.mergeSort_perm ss' byPriority).symm)

theorem exists_split_of_mem (apart : ss.Pairwise (·.serial ≠ ·.serial)) (hs : s ∈ ss) :
    ∃ before after, ss = before ++ s :: after ∧ ss.filter (·.serial ≠ s.serial) = before ++ after := by
  have ⟨before, after, split⟩ := List.append_of_mem hs
  subst split
  have ⟨_, behind, across⟩ := List.pairwise_append.mp apart
  have hb : before.filter (·.serial ≠ s.serial) = before :=
    List.filter_eq_self.mpr fun t ht => by simpa using across t ht s (.head _)
  have ha : after.filter (·.serial ≠ s.serial) = after :=
    List.filter_eq_self.mpr fun t ht => by simpa using ((List.pairwise_cons.mp behind).left t ht).symm
  refine ⟨before, after, rfl, ?_⟩
  rw [List.filter_append, List.filter_cons_of_neg (by simp), hb, ha]

theorem eq_of_serial_eq (apart : ss.Pairwise (·.serial ≠ ·.serial)) (hs : s ∈ ss) (ht : t ∈ ss)
    (same : t.serial = s.serial) : t = s := by
  have ⟨before, after, split, rest⟩ := exists_split_of_mem apart hs
  have others : t ∉ before ++ after := by simp [← rest, same]
  rw [split] at ht
  simp_all

end Subscription

namespace Deed

def isOn (b : BusId) : Deed ξ → Bool
  | on b' _ _ _ => b' = b
  | _           => false

def isOff (id : SubscriptionId) : Deed ξ → Bool
  | off id' => id' = id
  | _       => false

-- The subscriptions to a bus that are not asked to end later on, in the order in which they are made. They
-- are numbered from `n` on.
def standing (b : BusId) : Nat → List (Deed ξ) → List (Subscription (Observer ξ))
  | _, [] => []
  | n, .on b' topic priority observer :: ds =>
    if b' = b then
      let rest := standing b (n + 1) ds
      if ds.any (·.isOff ⟨b, n⟩) then rest else { serial := n, topic, priority, observer } :: rest
    else standing b n ds
  | n, _ :: ds => standing b n ds

variable {b : BusId} {d : Deed ξ} {ds : List (Deed ξ)} {n : Nat} {s : Subscription (Observer ξ)}

theorem isOn_iff : d.isOn b ↔ ∃ topic priority observer, d = .on b topic priority observer := by
  cases d <;> simp [isOn]

theorem standing_cons_on (topic : String) (priority : Priority) (observer : Observer ξ) :
    standing b n (.on b topic priority observer :: ds) =
      if ds.any (·.isOff ⟨b, n⟩) then standing b (n + 1) ds
      else { serial := n, topic, priority, observer } :: standing b (n + 1) ds := by
  rw [standing, if_pos rfl]

theorem standing_cons_of_not_isOn (hd : ¬d.isOn b) : standing b n (d :: ds) = standing b n ds := by
  cases d
  case on b' topic priority observer =>
    have hb : b' ≠ b := by simpa [isOn] using hd
    rw [standing, if_neg hb]
  all_goals rfl

theorem standing_append (b : BusId) (n : Nat) (ds ds' : List (Deed ξ)) : standing b n (ds ++ ds') =
    (standing b n ds).filter (fun s => !ds'.any (·.isOff ⟨b, s.serial⟩)) ++
      standing b (n + ds.countP (isOn b)) ds' := by
  induction ds generalizing n with
  | nil => simp [standing]
  | cons d ds ih =>
    rw [List.cons_append]
    by_cases hd : d.isOn b
    case neg => rw [standing_cons_of_not_isOn hd, standing_cons_of_not_isOn hd, List.countP_cons_of_neg hd, ih]
    case pos =>
      have ⟨topic, priority, observer, he⟩ := isOn_iff.mp hd
      subst he
      have counted : n + 1 + ds.countP (isOn b) = n + (ds.countP (isOn b) + 1) := by omega
      rw [standing_cons_on, standing_cons_on, List.countP_cons_of_pos hd, ih, counted, List.any_append]
      by_cases hs : ds.any (·.isOff ⟨b, n⟩)
      case pos => simp [hs]
      case neg => by_cases hl : ds'.any (·.isOff ⟨b, n⟩) <;> simp [hs, hl]

theorem standing_concat_of_not_isOff (isOff : ∀ n, ¬d.isOff ⟨b, n⟩) :
    standing b n (ds ++ [d]) = standing b n ds ++ standing b (n + ds.countP (isOn b)) [d] := by
  rw [standing_append, List.filter_eq_self.mpr fun s _ => by simp [isOff]]

theorem mem_standing (hs : s ∈ standing b n ds) : n ≤ s.serial ∧ s.serial < n + ds.countP (isOn b) := by
  induction ds generalizing n with
  | nil => cases hs
  | cons d ds ih =>
    by_cases hd : d.isOn b
    case neg =>
      rw [standing_cons_of_not_isOn hd] at hs
      rw [List.countP_cons_of_neg hd]
      exact ih hs
    case pos =>
      have ⟨topic, priority, observer, he⟩ := isOn_iff.mp hd
      subst he
      rw [standing_cons_on] at hs
      rw [List.countP_cons_of_pos hd]
      have either : s.serial = n ∨ s ∈ standing b (n + 1) ds := by
        split at hs
        case isTrue => exact .inr hs
        case isFalse => exact (List.mem_cons.mp hs).imp_left (congrArg _)
      cases either with
      | inl first => omega
      | inr rest  =>
        have bounds := ih rest
        omega

theorem standing_pairwise (b : BusId) (n : Nat) (ds : List (Deed ξ)) :
    (standing b n ds).Pairwise (·.serial < ·.serial) := by
  induction ds generalizing n with
  | nil => exact .nil
  | cons d ds ih =>
    by_cases hd : d.isOn b
    case neg =>
      rw [standing_cons_of_not_isOn hd]
      exact ih n
    case pos =>
      have ⟨topic, priority, observer, he⟩ := isOn_iff.mp hd
      subst he
      rw [standing_cons_on]
      split
      case isTrue => exact ih (n + 1)
      case isFalse => exact .cons (fun s hs => (mem_standing hs).left) (ih (n + 1))

theorem mem_standing_on {ds' : List (Deed ξ)} (topic : String) (priority : Priority) (observer : Observer ξ)
    (hn : n = ds.countP (isOn b)) (lasting : ¬ds'.any (·.isOff ⟨b, n⟩)) :
    { serial := n, topic, priority, observer } ∈ standing b 0 (ds ++ .on b topic priority observer :: ds') := by
  rw [standing_append, Nat.zero_add, ← hn, standing_cons_on, if_neg lasting]
  exact List.mem_append_right _ (.head _)

theorem serial_ne_of_mem_standing {ds' : List (Deed ξ)} {topic : String} {priority : Priority}
    {observer : Observer ξ} (hn : n = ds.countP (isOn b)) (ended : ds'.any (·.isOff ⟨b, n⟩))
    (hs : s ∈ standing b 0 (ds ++ .on b topic priority observer :: ds')) : s.serial ≠ n := by
  rw [standing_append, Nat.zero_add, ← hn, standing_cons_on, if_pos ended] at hs
  cases List.mem_append.mp hs with
  | inl hs =>
    have older := (mem_standing (List.mem_filter.mp hs).left).right
    omega
  | inr hs =>
    have newer := (mem_standing hs).left
    omega

def registered (b : BusId) (topic : String) (ds : List (Deed ξ × Host ξ σ)) : List (Subscription (Observer ξ)) :=
  (standing b 0 (ds.map (·.1))).filter (·.topic = topic)

end Deed
end Chatline
