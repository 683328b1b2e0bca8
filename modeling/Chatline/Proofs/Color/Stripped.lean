import Chatline.Proofs.Color

namespace Chatline.Color

variable {c d : Char} {cs s u w : List Char}

def Plain (s : List Char) : Prop :=
  ∀ c, isCode c → ¬ [sign, c] <:+: s

-- Somewhere a sign is kept apart from a code by nothing but color sequences.
def Nested (s : List Char) : Prop :=
  ∃ cs c, cs ≠ [] ∧ (∀ d ∈ cs, isCode d) ∧ isCode c ∧ sign :: (marked sign cs ++ [c]) <:+: s

theorem ne_of_isCode (h : isCode c) : c ≠ marker ∧ c ≠ sign := by
  constructor <;> rintro rfl
  case left => simp [marker_not_code] at h
  case right => simp [sign_not_code] at h

theorem strip_cons_of_ne (h : c ≠ sign) : strip (c :: s) = c :: strip s := by
  cases s with
  | nil      => rfl
  | cons d s => simp [strip, h]

theorem strip_cons_of_not_code (h : ∀ d ∈ s.head?, isCode d = false) : strip (c :: s) = c :: strip s := by
  cases s with
  | nil      => rfl
  | cons d s => simp [strip, h d rfl]

theorem strip_sequence (h : isCode d) : strip (sign :: d :: s) = strip s := by
  simp [strip, h]

theorem strip_marked (h : ∀ d ∈ cs, isCode d) : strip (marked sign cs ++ s) = strip s := by
  induction cs with
  | nil => rfl
  | cons d cs ih =>
    rw [marked_cons, List.cons_append, List.cons_append, strip_sequence (h d (.head cs)),
      ih fun e he => h e (.tail d he)]

theorem strip_append (h : ∀ d ∈ w.head?, isCode d = false) : strip (u ++ w) = strip u ++ strip w := by
  fun_induction strip u with
  | case1 c d cs hs ih => simpa [strip, hs] using ih
  | case2 c d cs hs ih => simpa [strip, hs] using ih
  | case3 s hs =>
    obtain rfl | ⟨c, rfl⟩ := eq_nil_or_singleton hs
    case inl => rfl
    case inr => exact strip_cons_of_not_code h

theorem strip_append_of_not_mem (h : sign ∉ u) : strip (u ++ w) = u ++ strip w := by
  induction u with
  | nil => rfl
  | cons c u ih =>
    have ⟨hc, hu⟩ := List.ne_and_not_mem_of_not_mem_cons h
    rw [List.cons_append, strip_cons_of_ne hc.symm, ih hu, List.cons_append]

theorem Plain.tail (h : Plain (c :: s)) : Plain s :=
  fun d hd hi => h d hd (List.infix_cons hi)

theorem plain_of_short (h : ∀ c d w, s = c :: d :: w → False) : Plain s := by
  intro c _ hi
  have long := hi.length_le
  obtain rfl | ⟨d, rfl⟩ := eq_nil_or_singleton h <;> simp at long

theorem length_strip_le (s : List Char) : (strip s).length ≤ s.length := by
  fun_induction strip s with
  | case1 c d cs _ ih => simp only [List.length_cons]; omega
  | case2 c d cs _ ih => simpa using ih
  | case3 => exact Nat.le_refl _

theorem strip_eq_self_iff : strip s = s ↔ Plain s := by
  fun_induction strip s with
  | case1 c d cs hs =>
    obtain ⟨rfl, hd⟩ := hs
    have shorter : strip cs ≠ sign :: d :: cs := by
      intro he
      have := length_strip_le cs
      simp only [he, List.length_cons] at this
      omega
    have colored : ¬ Plain (sign :: d :: cs) := fun h => h d hd ⟨[], cs, rfl⟩
    exact iff_of_false shorter colored
  | case2 c d cs hs ih =>
    rw [List.cons_inj_right, ih]
    constructor
    case mpr => exact Plain.tail
    case mp =>
      intro h e he hi
      obtain hp | hi := List.infix_cons_iff.mp hi
      case inl =>
        obtain ⟨rfl, rfl⟩ : sign = c ∧ e = d := by simpa using hp
        exact hs ⟨rfl, he⟩
      case inr => exact h e he hi
  | case3 s hs => exact iff_of_true rfl (plain_of_short hs)

theorem eq_marked_of_strip (h : strip s = c :: w) :
    ∃ cs w', (∀ d ∈ cs, isCode d) ∧ s = marked sign cs ++ c :: w' := by
  fun_induction strip s with
  | case1 e d s hs ih =>
    obtain ⟨rfl, hd⟩ := hs
    obtain ⟨cs, w', codes, rfl⟩ := ih h
    exact ⟨d :: cs, w', List.forall_mem_cons.mpr ⟨hd, codes⟩, rfl⟩
  | case2 e d s hs =>
    obtain ⟨rfl, -⟩ := List.cons.inj h
    exact ⟨[], d :: s, by simp, rfl⟩
  | case3 s hs => exact ⟨[], w, by simp, h⟩

theorem Nested.mono (h : Nested s) (hs : s <:+: u) : Nested u :=
  have ⟨cs, c, nonempty, codes, hc, hi⟩ := h
  ⟨cs, c, nonempty, codes, hc, hi.trans hs⟩

theorem strip_nest (nonempty : cs ≠ []) (codes : ∀ d ∈ cs, isCode d) (hc : isCode c) :
    strip (sign :: (marked sign cs ++ c :: s)) = sign :: c :: strip s := by
  obtain ⟨d, cs, rfl⟩ := List.exists_cons_of_ne_nil nonempty
  have opened : strip (sign :: (marked sign (d :: cs) ++ c :: s)) = sign :: strip (marked sign (d :: cs) ++ c :: s) :=
    strip_cons_of_not_code fun e he => by
      obtain rfl : sign = e := by simpa [marked_cons] using he
      exact sign_not_code
  rw [opened, strip_marked codes, strip_cons_of_ne (ne_of_isCode hc).right]

theorem plain_strip_iff : Plain (strip s) ↔ ¬ Nested s where
  mp plain nested := by
    obtain ⟨cs, c, nonempty, codes, hc, u, w, rfl⟩ := nested
    have left : strip (u ++ (sign :: (marked sign cs ++ c :: w))) = strip u ++ (sign :: c :: strip w) := by
      rw [strip_append (by simp [sign_not_code]), strip_nest nonempty codes hc]
    have here : [sign, c] <:+: strip u ++ (sign :: c :: strip w) := ⟨strip u, strip w, by simp⟩
    simp only [List.append_assoc, List.cons_append, List.nil_append] at plain
    exact plain c hc (left ▸ here)
  mpr unnested c hc hi := by
    fun_induction strip s with
    | case1 e d s hs ih =>
      exact ih (fun nested => unnested (nested.mono ⟨[e, d], [], by simp⟩)) hi
    | case2 e d s hs ih =>
      obtain ⟨v, hv⟩ | hi := List.infix_cons_iff.mp hi
      case inr => exact ih (fun nested => unnested (nested.mono (List.infix_cons (List.infix_refl _)))) hi
      -- The sign has been left alone, so it is not the code itself that comes next.
      case inl =>
        have bared : strip (d :: s) = c :: v := (List.cons.inj hv).right.symm
        obtain rfl : sign = e := (List.cons.inj hv).left
        obtain ⟨cs, w, codes, he⟩ := eq_marked_of_strip bared
        cases cs with
        | nil =>
          obtain ⟨rfl, -⟩ := List.cons.inj he
          exact hs ⟨rfl, hc⟩
        | cons f cs =>
          refine unnested ⟨f :: cs, c, List.cons_ne_nil f cs, codes, hc, [], w, ?_⟩
          simp [he]
    | case3 s hs => exact plain_of_short hs c hc hi

end Chatline.Color
