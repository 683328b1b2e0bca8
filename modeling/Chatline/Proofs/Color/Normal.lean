import Chatline.Proofs.Color.Markup

namespace Chatline.Color

variable {c : Char} {s u w digits : List Char}

-- There is nothing in a text that coloring would change.
structure Normal (s : List Char) : Prop where
  code : ∀ c, isCode c → ¬ [marker, c] <:+: s
  hex  : ∀ digits, digits.length = 6 → (∀ d ∈ digits, isHexDigit d) → ¬ '&' :: '#' :: digits <:+: s

namespace Normal

theorem tail (h : Normal (c :: s)) : Normal s where
  code d hd hi          := h.code d hd (List.infix_cons hi)
  hex digits six hds hi := h.hex digits six hds (List.infix_cons hi)

theorem not_opens (h : Normal s) : hexColor? s = none := by
  cases ho : hexColor? s with
  | none   => rfl
  | some p =>
    have ⟨text, six, digits⟩ := hexColor?_eq_some_iff.mp ho
    exact absurd ⟨[], p.2, text.symm⟩ (h.hex p.1 six digits)

theorem bare (h : Normal (marker :: s)) : ∀ d ∈ s.head?, isCode d = false := by
  intro d hd
  obtain ⟨w, rfl⟩ : ∃ w, s = d :: w := List.head?_eq_some_iff.mp hd
  have uncoded := fun hc => h.code d hc ⟨[], w, rfl⟩
  simpa using uncoded

theorem unchanged (h : Normal s) : colorize s = s := by
  induction s with
  | nil => exact colorize_nil
  | cons c s ih =>
    have bare : c = marker → ∀ d ∈ s.head?, isCode d = false := by
      rintro rfl
      exact h.bare
    rw [colorize_plain h.not_opens bare, ih h.tail]

theorem append (hu : marker ∉ u) (h : Normal w) : Normal (u ++ w) where
  code c hc hi          := h.code c hc (Text.infix_of_infix_append (by simpa) (by simp) hi)
  hex digits six hd hi := h.hex digits six hd (Text.infix_of_infix_append (by simpa) (by simp) hi)

end Normal

theorem prefix_of_prefix_colorize (hw : ∀ c ∈ w, c ≠ marker ∧ c ≠ sign) (h : w <+: colorize s) : w <+: s := by
  rw [colorize_eq] at h
  exact prefix_of_prefix_expandHex (fun hm => (hw marker hm).left rfl)
    (prefix_of_prefix_translate (fun hs => (hw sign hs).right rfl) h)

theorem Normal.marker_cons (closed : hexColor? (marker :: s) = none) (bare : ∀ d ∈ s.head?, isCode d = false)
    (h : Normal (colorize s)) : Normal (marker :: colorize s) where
  code c hc hi := by
    obtain hp | hi := List.infix_cons_iff.mp hi
    case inr => exact h.code c hc hi
    case inl =>
      have colored : [c] <+: colorize s := (List.cons_prefix_cons.mp hp).right
      obtain ⟨w, rfl⟩ : [c] <+: s := prefix_of_prefix_colorize (by simpa using ne_of_isCode hc) colored
      simp [bare c rfl] at hc
  hex digits six hd hi := by
    obtain hp | hi := List.infix_cons_iff.mp hi
    case inr => exact h.hex digits six hd hi
    case inl =>
      have inert : ∀ c ∈ '#' :: digits, c ≠ marker ∧ c ≠ sign :=
        List.forall_mem_cons.mpr ⟨by decide, fun d hm => ne_of_isCode (isCode_of_isHexDigit (hd d hm))⟩
      have colored : '#' :: digits <+: colorize s := (List.cons_prefix_cons.mp hp).right
      obtain ⟨w, rfl⟩ : '#' :: digits <+: s := prefix_of_prefix_colorize inert colored
      have opened : Opens digits w (marker :: ('#' :: digits ++ w)) := { text := rfl, six := six, digits := hd }
      cases closed.symm.trans (hexColor?_eq_some_iff.mpr opened)

theorem Markup.Reads.normal {ms : List Markup} (h : Reads s ms) : Normal (colorize s) := by
  induction h with
  | done =>
    rw [colorize_nil]
    exact { code := by simp, hex := by simp }
  | @hex digits _ _ _ ho _ ih =>
    have unmarked : marker ∉ marked sign ('x' :: digits) := by
      intro hm
      obtain hm | hm := mem_marked hm
      case inl => exact absurd hm (by decide)
      case inr => exact (ne_of_isCode (ho.codes marker hm)).left rfl
    rw [colorize_of_opens ho]
    exact ih.append unmarked
  | @code c _ _ hc _ ih =>
    have unmarked : marker ∉ [sign, c] := by simpa using ⟨by decide, (ne_of_isCode hc).left.symm⟩
    rw [colorize_code hc]
    exact ih.append unmarked
  | @plain c _ _ closed bare _ ih =>
    rw [colorize_plain closed bare]
    by_cases hc : c = marker
    case pos =>
      subst hc
      exact .marker_cons closed (bare rfl) ih
    case neg =>
      have unmarked : marker ∉ [c] := by simpa using Ne.symm hc
      exact ih.append unmarked

theorem normal_colorize (s : List Char) : Normal (colorize s) :=
  (Markup.reads s).normal

theorem colorize_eq_self_iff : colorize s = s ↔ Normal s where
  mp h := h ▸ normal_colorize s
  mpr h := h.unchanged

theorem colorize_colorize (s : List Char) : colorize (colorize s) = colorize s :=
  (normal_colorize s).unchanged

end Chatline.Color
