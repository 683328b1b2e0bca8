import Chatline.Color

namespace Chatline.Color

variable {m : Char} {mark s cells : List Char} {i n : Nat}

theorem marks_iff : marks mark s i ↔ (∃ c, s[i]? = some c ∧ [c] = mark) ∧ ∃ d, s[i + 1]? = some d ∧ isCode d := by
  simp [marks, Option.any_eq_true]

theorem marks_congr (here : cells[i]? = s[i]?) (next : cells[i + 1]? = s[i + 1]?) :
    marks mark cells i = marks mark s i := by
  rw [marks, marks, here, next]

theorem lt_of_marks (h : marks mark s i) : i + 1 < s.length := by
  obtain ⟨-, d, hd, -⟩ := marks_iff.mp h
  have ⟨inside, _⟩ := List.getElem?_eq_some_iff.mp hd
  exact inside

-- How far the marks of `s` have been overwritten: those before the place `n` are, and from there on the text is as it
-- was.
structure Overwritten (mark s : List Char) (n : Nat) (cells : List Char) : Prop where
  length : cells.length = s.length
  before : ∀ i < n, cells[i]? = if marks mark s i then some sign else s[i]?
  ahead  : ∀ i, n ≤ i → cells[i]? = s[i]?

namespace Overwritten

theorem start : Overwritten mark s 0 s where
  length     := rfl
  before _ h := absurd h (Nat.not_lt_zero _)
  ahead _ _  := rfl

theorem step (h : Overwritten mark s n cells) :
    Overwritten mark s (n + 1) (if marks mark cells n then cells.set n sign else cells) := by
  -- Neither this place nor the next one has been written to, so the mark is one of the text.
  rw [marks_congr (h.ahead n (Nat.le_refl n)) (h.ahead (n + 1) n.le_succ)]
  by_cases hm : marks mark s n
  case pos =>
    have inside : n < cells.length := by
      have := lt_of_marks hm
      have := h.length
      omega
    rw [if_pos hm]
    refine { length := by rw [List.length_set, h.length], before := ?before, ahead := ?ahead }
    case before =>
      intro i hi
      obtain hi | rfl := Nat.lt_succ_iff_lt_or_eq.mp hi
      · rw [List.getElem?_set_ne (Nat.ne_of_gt hi), h.before i hi]
      · rw [List.getElem?_set_self inside, if_pos hm]
    case ahead =>
      intro i hi
      rw [List.getElem?_set_ne (by omega), h.ahead i (by omega)]
  case neg =>
    rw [if_neg hm]
    refine { length := h.length, before := ?_, ahead := fun i hi => h.ahead i (by omega) }
    intro i hi
    obtain hi | rfl := Nat.lt_succ_iff_lt_or_eq.mp hi
    · exact h.before i hi
    · rw [if_neg hm, h.ahead i (Nat.le_refl i)]

theorem foldl (n : Nat) :
    Overwritten mark s n
      ((List.range n).foldl (fun cells i => if marks mark cells i then cells.set i sign else cells) s) := by
  induction n with
  | zero => exact start
  | succ n ih =>
    rw [List.range_succ, List.foldl_append]
    exact ih.step

end Overwritten

theorem translateText_length : (translateText mark s).length = s.length :=
  (Overwritten.foldl _).length

theorem translateText_getElem? :
    (translateText mark s)[i]? = if marks mark s i then some sign else s[i]? := by
  have overwritten : Overwritten mark s (s.length - 1) (translateText mark s) := .foldl _
  by_cases hi : i < s.length - 1
  case pos => exact overwritten.before i hi
  case neg =>
    have unmarked : ¬ marks mark s i := fun hm => hi (by have := lt_of_marks hm; omega)
    rw [if_neg unmarked, overwritten.ahead i (by omega)]

theorem eq_nil_or_singleton (h : ∀ c d w, s = c :: d :: w → False) : s = [] ∨ ∃ c, s = [c] := by
  match s with
  | []          => simp
  | [c]         => simp
  | c :: d :: w => exact absurd rfl (h c d w)

theorem translate_getElem? : (translate m s)[i]? = if marks [m] s i then some sign else s[i]? := by
  fun_induction translate m s generalizing i with
  | case1 c d cs ih =>
    cases i with
    | zero => simp [marks]; split <;> rfl
    | succ i => simpa [marks] using ih
  | case2 s hs =>
    obtain rfl | ⟨c, rfl⟩ := eq_nil_or_singleton hs <;> simp [marks]

theorem translateText_singleton : translateText [m] s = translate m s :=
  List.ext_getElem? fun i => by rw [translateText_getElem?, translate_getElem?]

theorem colorize_eq : colorize s = translate marker (expandHex s) :=
  translateText_singleton

theorem marks_of_marks_translateText (h : marks mark (translateText mark s) i) : marks mark s i := by
  obtain ⟨⟨c, hc, rfl⟩, d, hd, code⟩ := marks_iff.mp h
  rw [translateText_getElem?] at hc hd
  split at hc
  case isTrue hm => exact hm
  case isFalse =>
    split at hd
    case isTrue =>
      -- Behind the mark there would be a sign, which is no code.
      obtain rfl := Option.some.inj hd
      simp [sign_not_code] at code
    case isFalse => exact marks_iff.mpr ⟨⟨c, hc, rfl⟩, d, hd, code⟩

theorem translateText_translateText : translateText mark (translateText mark s) = translateText mark s := by
  apply List.ext_getElem?
  intro i
  rw [translateText_getElem?]
  split
  case isTrue h => rw [translateText_getElem?, if_pos (marks_of_marks_translateText h)]
  case isFalse => rfl

-- Although marks are overwritten while the text is still being read, each place comes out as if all of them had been
-- translated at once. That also goes for a mark that is a code itself, and so turns into a sign what the place before
-- it has been translated for.
theorem translateText_at_once (mark s : List Char) :
    (translateText mark s).length = s.length ∧
      (∀ i c, s[i]? = some c →
        (translateText mark s)[i]? = some (if [c] = mark ∧ s[i + 1]?.any isCode then sign else c)) ∧
      translateText mark (translateText mark s) = translateText mark s := by
  refine ⟨translateText_length, ?_, translateText_translateText⟩
  intro i c hc
  have here : marks mark s i ↔ [c] = mark ∧ s[i + 1]?.any isCode := by simp [marks, hc]
  rw [translateText_getElem?, hc]
  simp only [here]
  split <;> rfl

example : translateText ['a'] "aaab a".toList = "§§§b a".toList := by
  decide

end Chatline.Color
