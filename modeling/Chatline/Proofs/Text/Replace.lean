import Chatline.Text.Find

namespace Chatline.Text

variable {a : Char} {pat u w new : List Char}

theorem isPrefixOf_cons_of_ne {c : Char} (h : a ≠ c) : (a :: pat).isPrefixOf (c :: w) = false := by
  simp [List.isPrefixOf, h]

theorem replace.go_append_of_not_mem (h : a ∉ u) :
    go (a :: pat) new 0 (u ++ w) = u ++ go (a :: pat) new 0 w := by
  induction u with
  | nil => rfl
  | cons c u ih =>
    have hc : a ≠ c := List.ne_of_not_mem_cons h
    have hu : a ∉ u := List.not_mem_of_not_mem_cons h
    simp [go, isPrefixOf_cons_of_ne hc, ih hu]

theorem replace_append_of_not_mem (h : a ∉ u) :
    replace (a :: pat) new (u ++ w) = u ++ replace (a :: pat) new w :=
  replace.go_append_of_not_mem h

theorem isPrefixOf_append (p w : List Char) : p.isPrefixOf (p ++ w) = true :=
  List.isPrefixOf_iff_prefix.mpr (List.prefix_append p w)

theorem replace_pattern_append :
    replace (a :: pat) new (a :: pat ++ w) = new ++ replace (a :: pat) new w := by
  have hp : (a :: pat).isPrefixOf (a :: (pat ++ w)) = true := isPrefixOf_append (a :: pat) w
  have hs : replace.go (a :: pat) new pat.length (pat ++ w) = replace.go (a :: pat) new 0 w := by
    rw [replace.go_skip, List.drop_left]
  simp only [replace, List.cons_append, replace.go, hp, if_true, List.length_cons]
  exact congrArg (new ++ ·) hs

theorem replace_other_append (hp : (a :: pat).isPrefixOf (a :: u ++ w) = false) (hu : a ∉ u) :
    replace (a :: pat) new (a :: u ++ w) = a :: u ++ replace (a :: pat) new w := by
  have hrest : replace.go (a :: pat) new 0 (u ++ w) = u ++ replace.go (a :: pat) new 0 w :=
    replace.go_append_of_not_mem hu
  rw [List.cons_append] at hp
  simp [replace, replace.go, hp, hrest]

theorem infix_of_infix_append (hu : ∀ a ∈ pat.head?, a ∉ u) (nonempty : pat ≠ []) (h : pat <:+: u ++ w) : pat <:+: w := by
  induction u with
  | nil => exact h
  | cons c u ih =>
    obtain hp | hi := List.infix_cons_iff.mp h
    case inl =>
      obtain rfl | ⟨w, rfl, -⟩ := List.prefix_cons_iff.mp hp
      case inl => contradiction
      case inr => exact absurd (.head u) (hu c rfl)
    case inr => exact ih (fun a ha => List.not_mem_of_not_mem_cons (hu a ha)) hi

end Chatline.Text
