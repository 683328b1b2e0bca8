import Chatline.Proofs.Dispatch.Ledger
import Chatline.Proofs.Passing.Ongoing

namespace Chatline

variable {ξ σ ω : Type}

namespace Bus

def place (r : Priority × ω) : List (Priority × ω) → List (Priority × ω)
  | []      => [r]
  | t :: ts => if t.1.rank ≤ r.1.rank then t :: place r ts else r :: t :: ts

theorem place_split {r : Priority × ω} {l m : List (Priority × ω)} (hl : ∀ t ∈ l, t.1.rank ≤ r.1.rank)
    (hm : ∀ t ∈ m, r.1.rank < t.1.rank) : place r (l ++ m) = l ++ r :: m := by
  induction l with
  | nil =>
    cases m with
    | nil => rfl
    | cons t m => exact if_neg (Nat.not_le.mpr (hm t (.head _)))
  | cons t l ih =>
    have ih := ih fun t ht => hl t (.tail _ ht)
    rw [List.cons_append, place, if_pos (hl t (.head _)), ih, List.cons_append]

theorem map_role_insert (s : Subscription ω) (ss : List (Subscription ω)) :
    (insert s ss).map (·.role) = place s.role (ss.map (·.role)) := by
  induction ss with
  | nil => rfl
  | cons t ts ih =>
    by_cases hr : t.priority.rank ≤ s.priority.rank
    case pos =>
      have hp : place s.role (t.role :: ts.map (·.role)) = t.role :: place s.role (ts.map (·.role)) := if_pos hr
      rw [insert, if_pos hr, List.map_cons, ih, List.map_cons, hp]
    case neg =>
      have hp : place s.role (t.role :: ts.map (·.role)) = s.role :: t.role :: ts.map (·.role) := if_neg hr
      rw [insert, if_neg hr, List.map_cons, List.map_cons, hp]

def Sorted (b : Bus ω) : Prop :=
  b.subscriptions.Pairwise fun s t => s.priority.rank ≤ t.priority.rank

variable {b : Bus ω}

theorem Orderly.sorted (h : b.Orderly) : b.Sorted :=
  h.ordered.imp rank_le_of_before

theorem Sorted.subscribe (h : b.Sorted) (topic : String) (priority : Priority) (observer : ω) :
    (b.subscribe topic priority observer).Sorted :=
  pairwise_insert (fun _ _ hr => hr) (fun _ _ hr => hr) (fun _ hr => Nat.le_of_lt hr) h

theorem insert_of_lt {s : Subscription ω} {ss : List (Subscription ω)}
    (h : ∀ t ∈ ss, s.priority.rank < t.priority.rank) : insert s ss = s :: ss := by
  cases ss with
  | nil => rfl
  | cons t ts => exact if_neg (Nat.not_le.mpr (h t (.head _)))

theorem filter_insert {s : Subscription ω} {ss : List (Subscription ω)} (p : Subscription ω → Bool)
    (h : ss.Pairwise fun s t => s.priority.rank ≤ t.priority.rank) :
    (insert s ss).filter p = if p s then insert s (ss.filter p) else ss.filter p := by
  induction ss with
  | nil => by_cases hs : p s <;> simp [insert, hs]
  | cons t ts ih =>
    have ht : ∀ u ∈ ts, t.priority.rank ≤ u.priority.rank := (List.pairwise_cons.mp h).left
    have ih := ih (List.pairwise_cons.mp h).right
    by_cases hr : t.priority.rank ≤ s.priority.rank
    case pos =>
      have hi (us : List (Subscription ω)) : insert s (t :: us) = t :: insert s us := if_pos hr
      rw [hi, List.filter_cons, ih, List.filter_cons]
      by_cases hp : p t <;> by_cases hs : p s <;> simp [hp, hs, hi]
    case neg =>
      -- The newcomer comes first here, and before whatever is left of the list.
      have lt : ∀ u ∈ (t :: ts).filter p, s.priority.rank < u.priority.rank := by
        intro u hu
        have hr := Nat.lt_of_not_le hr
        cases (List.mem_filter.mp hu).left with
        | head => exact hr
        | tail _ hu => exact Nat.lt_of_lt_of_le hr (ht u hu)
      rw [insert, if_neg hr, List.filter_cons, insert_of_lt lt]

theorem Sorted.roles_subscribe (h : b.Sorted) (topic topic' : String) (priority : Priority) (observer : ω) :
    (b.subscribe topic priority observer).roles topic' =
      if topic = topic' then place (priority, observer) (b.roles topic') else b.roles topic' := by
  simp only [roles, live]
  rw [Bus.subscribe, filter_insert _ h]
  by_cases ht : topic = topic'
  case pos =>
    rw [if_pos ht, if_pos (by simpa using ht), map_role_insert]
    rfl
  case neg => rw [if_neg ht, if_neg (by simpa using ht)]

end Bus

def Priority.Between (p : Priority) : Prop :=
  p = .low ∨ p = .normal ∨ p = .high

def rankAndFile (xs : List (Priority × ξ)) (p : Priority) : List (Priority × Observer ξ) :=
  (xs.filter (·.1 = p)).map fun x => (x.1, .guest x.2)

-- Guests in the order of delivery: by priority and, among those of one priority, as they have come.
def lineup (xs : List (Priority × ξ)) : List (Priority × Observer ξ) :=
  rankAndFile xs .low ++ rankAndFile xs .normal ++ rankAndFile xs .high

def staffed (id : PluginId) (xs : List (Priority × ξ)) : List (Priority × Observer ξ) :=
  (.lowest, .installer id) :: (lineup xs ++ [(.highest, .resolver id)])

theorem eq_of_mem_rankAndFile {xs : List (Priority × ξ)} {p : Priority} {t : Priority × Observer ξ}
    (ht : t ∈ rankAndFile xs p) : t.1 = p := by
  have ⟨x, hx, he⟩ := List.mem_map.mp ht
  subst he
  simpa using (List.mem_filter.mp hx).right

theorem guest_of_mem_lineup {xs : List (Priority × ξ)} {t : Priority × Observer ξ} (ht : t ∈ lineup xs) :
    ∃ x, t.2 = .guest x := by
  have hm {p : Priority} (ht : t ∈ rankAndFile xs p) : ∃ x, t.2 = .guest x := by
    have ⟨x, _, he⟩ := List.mem_map.mp ht
    exact ⟨x.2, he ▸ rfl⟩
  cases List.mem_append.mp ht with
  | inl ht => exact (List.mem_append.mp ht).elim hm hm
  | inr ht => exact hm ht

theorem rank_of_mem_lineup {xs : List (Priority × ξ)} {t : Priority × Observer ξ} (ht : t ∈ lineup xs) :
    Priority.lowest.rank < t.1.rank ∧ t.1.rank < Priority.highest.rank := by
  have hm {p : Priority} (ht : t ∈ rankAndFile xs p) (hp : p.Between) :
      Priority.lowest.rank < t.1.rank ∧ t.1.rank < Priority.highest.rank := by
    rw [eq_of_mem_rankAndFile ht]
    rcases hp with hp | hp | hp <;> rw [hp] <;> decide
  cases List.mem_append.mp ht with
  | inl ht =>
    cases List.mem_append.mp ht with
    | inl ht => exact hm ht (.inl rfl)
    | inr ht => exact hm ht (.inr (.inl rfl))
  | inr ht => exact hm ht (.inr (.inr rfl))

theorem place_staffed (id : PluginId) (xs : List (Priority × ξ)) :
    Bus.place (.highest, .resolver id) (Bus.place (.lowest, .installer id) (lineup xs)) = staffed id xs := by
  have first : Bus.place (.lowest, .installer id) (lineup xs) = (.lowest, .installer id) :: lineup xs :=
    Bus.place_split (l := []) (fun _ ht => nomatch ht) fun t ht => (rank_of_mem_lineup ht).left
  have le : ∀ t ∈ (.lowest, .installer id) :: lineup xs, t.1.rank ≤ Priority.highest.rank := by
    intro t ht
    cases ht with
    | head      => exact Nat.zero_le _
    | tail _ ht => exact Nat.le_of_lt (rank_of_mem_lineup ht).right
  have last := Bus.place_split (r := (Priority.highest, Observer.resolver id)) le (m := []) fun _ ht => nomatch ht
  rw [List.append_nil] at last
  rw [first, last]
  rfl

theorem rankAndFile_append (xs : List (Priority × ξ)) (x : Priority × ξ) (p : Priority) :
    rankAndFile (xs ++ [x]) p = rankAndFile xs p ++ if x.1 = p then [(x.1, .guest x.2)] else [] := by
  by_cases hp : x.1 = p <;> simp [rankAndFile, hp]

theorem place_lineup {x : Priority × ξ} (hx : x.1.Between) {xs : List (Priority × ξ)}
    {l m : List (Priority × Observer ξ)} (hl : ∀ t ∈ l, t.1 = .lowest) (hm : ∀ t ∈ m, t.1 = .highest) :
    Bus.place (x.1, .guest x.2) (l ++ (lineup xs ++ m)) = l ++ (lineup (xs ++ [x]) ++ m) := by
  have le (p : Priority) (hp : p.rank ≤ x.1.rank) : ∀ t ∈ rankAndFile xs p, t.1.rank ≤ x.1.rank :=
    fun t ht => eq_of_mem_rankAndFile ht ▸ hp
  have lt (p : Priority) (hp : x.1.rank < p.rank) : ∀ t ∈ rankAndFile xs p, x.1.rank < t.1.rank :=
    fun t ht => eq_of_mem_rankAndFile ht ▸ hp
  have first : ∀ t ∈ l, t.1.rank ≤ x.1.rank := fun t ht => hl t ht ▸ Nat.zero_le _
  have last : ∀ t ∈ m, x.1.rank < t.1.rank := by
    intro t ht
    rw [hm t ht]
    rcases hx with hx | hx | hx <;> rw [hx] <;> decide
  have both {p : Priority × Observer ξ → Prop} {l₁ l₂ : List (Priority × Observer ξ)} (h₁ : ∀ t ∈ l₁, p t)
      (h₂ : ∀ t ∈ l₂, p t) : ∀ t ∈ l₁ ++ l₂, p t := List.forall_mem_append.mpr ⟨h₁, h₂⟩
  have split {l₁ l₂ : List (Priority × Observer ξ)} (h₁ : ∀ t ∈ l₁, t.1.rank ≤ x.1.rank)
      (h₂ : ∀ t ∈ l₂, x.1.rank < t.1.rank) :
      Bus.place (x.1, .guest x.2) (l₁ ++ l₂) = l₁ ++ (x.1, .guest x.2) :: l₂ := Bus.place_split h₁ h₂
  simp only [lineup]
  rw [rankAndFile_append, rankAndFile_append, rankAndFile_append]
  rcases hx with hx | hx | hx
  case inl =>
    have hs := split (both first (le .low (by simp [hx, Priority.rank])))
      (both (lt .normal (by simp [hx, Priority.rank])) (both (lt .high (by simp [hx, Priority.rank])) last))
    simpa [hx, List.append_assoc] using hs
  case inr.inl =>
    have hs := split
      (both first (both (le .low (by simp [hx, Priority.rank])) (le .normal (by simp [hx, Priority.rank]))))
      (both (lt .high (by simp [hx, Priority.rank])) last)
    simpa [hx, List.append_assoc] using hs
  case inr.inr =>
    have hs := split
      (both first (both (le .low (by simp [hx, Priority.rank]))
        (both (le .normal (by simp [hx, Priority.rank])) (le .high (by simp [hx, Priority.rank]))))) last
    simpa [hx, List.append_assoc] using hs

theorem foldl_place_lineup {ys : List (Priority × ξ)} (hy : ∀ x ∈ ys, x.1.Between)
    {xs : List (Priority × ξ)} {l m : List (Priority × Observer ξ)} (hl : ∀ t ∈ l, t.1 = .lowest)
    (hm : ∀ t ∈ m, t.1 = .highest) :
    ys.foldl (fun l x => Bus.place (x.1, .guest x.2) l) (l ++ (lineup xs ++ m)) =
      l ++ (lineup (xs ++ ys) ++ m) := by
  induction ys generalizing xs with
  | nil => rw [List.append_nil]; rfl
  | cons y ys ih =>
    rw [List.foldl_cons, place_lineup (hy y (.head _)) hl hm, ih fun x hx => hy x (.tail _ hx),
      List.append_assoc]
    rfl

end Chatline
