import Chatline.Proofs.Color.InPlace
import Chatline.Proofs.Text.Replace

namespace Chatline.Color

variable {c m : Char} {s u w digits rest : List Char}

structure Opens (digits rest s : List Char) : Prop where
  text   : s = '&' :: '#' :: digits ++ rest
  six    : digits.length = 6
  digits : ∀ d ∈ digits, isHexDigit d

theorem hexColor?_eq_some_iff : hexColor? s = some (digits, rest) ↔ Opens digits rest s where
  mp h := by
    simp only [hexColor?] at h
    split at h
    case h_2 => contradiction
    case h_1 a b c d e f rest' =>
      split at h
      case isFalse => contradiction
      case isTrue hd =>
        obtain ⟨rfl, rfl⟩ := by simpa using h
        exact { text := rfl, six := rfl, digits := List.all_eq_true.mp hd }
  mpr h := by
    obtain ⟨rfl, hl, hd⟩ := h
    match digits, hl with
    | [a, b, c, d, e, f], _ =>
      have hd : [a, b, c, d, e, f].all isHexDigit = true := List.all_eq_true.mpr hd
      simp only [hexColor?, List.cons_append, List.nil_append, hd, if_true]

theorem expandHex_of_opens (h : Opens digits rest s) : expandHex s = spread digits ++ expandHex rest := by
  have hs := hexColor?_eq_some_iff.mpr h
  obtain ⟨rfl, -, -⟩ := h
  simp only [List.cons_append] at hs ⊢
  rw [expandHex.eq_2]
  split
  case h_1 h' =>
    obtain ⟨rfl, rfl⟩ := by simpa using hs.symm.trans h'
    rfl
  case h_2 h' => simp [hs] at h'

theorem expandHex_cons_of_not_opens (h : hexColor? (c :: s) = none) :
    expandHex (c :: s) = c :: expandHex s := by
  rw [expandHex.eq_2]
  split
  case h_1 h' => simp [h] at h'
  case h_2 => rfl

theorem expandHex_nil : expandHex [] = [] := by
  rw [expandHex]

theorem lt_of_isHexDigit (h : isHexDigit c) : c.toNat < 128 := by
  simp only [isHexDigit, Bool.or_eq_true, Bool.and_eq_true, decide_eq_true_eq] at h
  have hle : c ≤ 'f' := by
    obtain (⟨-, h⟩ | ⟨-, h⟩) | ⟨-, h⟩ := h
    · exact Char.le_trans h (by decide)
    · exact h
    · exact Char.le_trans h (by decide)
  exact Nat.lt_of_le_of_lt hle (by decide)

theorem isCode_of_isHexDigit (h : isHexDigit c) : isCode c := by
  have ascii : ∀ n < 128, isHexDigit (Char.ofNat n) → isCode (Char.ofNat n) := by decide
  have hc := ascii c.toNat (lt_of_isHexDigit h)
  rw [Char.ofNat_toNat] at hc
  exact hc h

def Calm (w : List Char) : Prop :=
  ∀ c ∈ w.head?, isCode c = false ∧ c ≠ '#'

theorem calm_nil : Calm [] := by
  simp [Calm]

theorem hexColor?_append (h : hexColor? u = some (digits, rest)) :
    hexColor? (u ++ w) = some (digits, rest ++ w) := by
  obtain ⟨rfl, hl, hd⟩ := hexColor?_eq_some_iff.mp h
  exact hexColor?_eq_some_iff.mpr { text := by simp, six := hl, digits := hd }

theorem Calm.not_opens (hw : Calm w) (h : hexColor? (c :: u) = none) :
    hexColor? (c :: u ++ w) = none := by
  cases ho : hexColor? (c :: u ++ w) with
  | none => rfl
  | some p =>
    obtain ⟨ht, hl, hd⟩ := hexColor?_eq_some_iff.mp ho
    rw [List.append_eq_append_iff] at ht
    obtain ⟨v, hv, hw'⟩ | ⟨v, hv, -⟩ := ht
    case inr =>
      have ho : Opens p.1 v (c :: u) := { text := hv, six := hl, digits := hd }
      simp [hexColor?_eq_some_iff.mpr ho] at h
    -- The hex color does not end before `w` begins, so `w` opens with a part of it.
    case inl =>
      cases v with
      | nil =>
        have ho : Opens p.1 [] (c :: u) := { text := by simpa using hv.symm, six := hl, digits := hd }
        simp [hexColor?_eq_some_iff.mpr ho] at h
      | cons d v =>
        have hmem : d ∈ '#' :: p.1 := by
          have hv : '#' :: p.1 = u ++ d :: v := (List.cons.inj hv).right
          simp [hv]
        obtain ⟨hcode, hsharp⟩ := hw d (by simp [hw'])
        obtain rfl | hmem := List.mem_cons.mp hmem
        · contradiction
        · simp [isCode_of_isHexDigit (hd d hmem)] at hcode

theorem expandHex_append (hw : Calm w) : expandHex (u ++ w) = expandHex u ++ expandHex w := by
  fun_induction expandHex u with
  | case1 => rfl
  | case2 c cs digits rest h ih =>
    rw [expandHex_of_opens (hexColor?_eq_some_iff.mp (hexColor?_append h)), ih, List.append_assoc]
  | case3 c cs h ih =>
    have hn : hexColor? (c :: (cs ++ w)) = none := hw.not_opens h
    rw [List.cons_append, expandHex_cons_of_not_opens hn, ih, List.cons_append]

theorem translate_cons_of_ne (h : c ≠ m) : translate m (c :: s) = c :: translate m s := by
  cases s with
  | nil => rfl
  | cons d s => simp [translate, h]

theorem translate_append (hw : Calm w) : translate m (u ++ w) = translate m u ++ translate m w := by
  fun_induction translate m u with
  | case1 c d cs ih => simpa [translate] using ih
  | case2 s hs =>
    obtain rfl | ⟨c, rfl⟩ := eq_nil_or_singleton hs
    case inl => rfl
    case inr =>
      cases w with
      | nil => rfl
      | cons d w =>
        have hd := (hw d rfl).left
        simp [translate, hd]

theorem head?_expandHex : (expandHex s).head? = s.head? := by
  fun_cases expandHex s with
  | case1 => rfl
  | case2 c cs digits rest h =>
    obtain ⟨ht, -, -⟩ := hexColor?_eq_some_iff.mp h
    simp_all [spread, marker]
  | case3 => rfl

theorem colorize_append (hw : Calm w) : colorize (u ++ w) = colorize u ++ colorize w := by
  have hw' : Calm (expandHex w) := by simpa [Calm, head?_expandHex] using hw
  simp only [colorize_eq, expandHex_append hw, translate_append hw']

theorem hexColor?_cons_of_ne (h : c ≠ marker) : hexColor? (c :: s) = none := by
  cases ho : hexColor? (c :: s) with
  | none => rfl
  | some p =>
    have ht := (hexColor?_eq_some_iff.mp ho).text
    simp_all [marker]

theorem expandHex_append_of_not_mem (h : marker ∉ u) : expandHex (u ++ w) = u ++ expandHex w := by
  induction u with
  | nil => rfl
  | cons c u ih =>
    have hc : c ≠ marker := (List.ne_of_not_mem_cons h).symm
    have hu : marker ∉ u := List.not_mem_of_not_mem_cons h
    rw [List.cons_append, expandHex_cons_of_not_opens (hexColor?_cons_of_ne hc), ih hu, List.cons_append]

theorem translate_append_of_not_mem (h : m ∉ u) : translate m (u ++ w) = u ++ translate m w := by
  induction u with
  | nil => rfl
  | cons c u ih =>
    have hc : c ≠ m := (List.ne_of_not_mem_cons h).symm
    have hu : m ∉ u := List.not_mem_of_not_mem_cons h
    rw [List.cons_append, translate_cons_of_ne hc, ih hu, List.cons_append]

theorem colorize_append_of_not_mem (h : marker ∉ u) : colorize (u ++ w) = u ++ colorize w := by
  simp only [colorize_eq, expandHex_append_of_not_mem h, translate_append_of_not_mem h]

theorem colorize_nil : colorize [] = [] := by
  rw [colorize_eq, expandHex_nil]
  rfl

def marked (m : Char) (cs : List Char) : List Char :=
  cs.flatMap ([m, ·])

theorem marked_cons : marked m (c :: s) = m :: c :: marked m s :=
  rfl

theorem spread_eq : spread digits = marked marker ('x' :: digits) :=
  rfl

theorem mem_marked (h : c ∈ marked m s) : c = m ∨ c ∈ s := by
  obtain ⟨d, hd, hc⟩ := List.mem_flatMap.mp h
  obtain rfl | rfl : c = m ∨ c = d := by simpa using hc
  case inl => exact .inl rfl
  case inr => exact .inr hd

theorem mem_expandHex (h : c ∈ expandHex s) : c ∈ s ∨ c = 'x' := by
  fun_induction expandHex s with
  | case1 => contradiction
  | case2 _ _ digits rest ho ih =>
    obtain ⟨ht, -, -⟩ := hexColor?_eq_some_iff.mp ho
    rw [ht]
    obtain h | h := List.mem_append.mp h
    case inl =>
      obtain rfl | h := mem_marked h
      case inl => simp [marker]
      case inr => obtain rfl | h := List.mem_cons.mp h <;> simp [*]
    case inr => obtain h | h := ih h <;> simp [h]
  | case3 d cs ho ih =>
    obtain rfl | h := List.mem_cons.mp h
    case inl => simp
    case inr => obtain h | h := ih h <;> simp [h]

theorem mem_translate (h : c ∈ translate m s) : c ∈ s ∨ c = sign := by
  fun_induction translate m s with
  | case1 d e cs ih =>
    obtain h | h := List.mem_cons.mp h
    case inl =>
      split at h
      · exact .inr h
      · simp [h]
    case inr =>
      obtain h | h := ih h
      · exact .inl (List.mem_cons_of_mem d h)
      · exact .inr h
  | case2 => exact .inl h

theorem mem_colorize (h : c ∈ colorize s) : c ∈ s ∨ c = sign ∨ c = 'x' := by
  rw [colorize_eq] at h
  obtain h | h := mem_translate h
  case inl =>
    obtain h | h := mem_expandHex h
    · exact .inl h
    · exact .inr (.inr h)
  case inr => exact .inr (.inl h)

-- A word that coloring can neither make nor unmake: it opens with what ends a color, and has no marker and no
-- sign.
structure Fixed (w : List Char) : Prop where
  nonempty : w ≠ []
  calm     : Calm w
  marker   : marker ∉ w
  sign     : sign ∉ w

theorem prefix_of_prefix_translate (hw : sign ∉ w) (h : w <+: translate m s) : w <+: s := by
  fun_induction translate m s generalizing w with
  | case1 c d cs ih =>
    obtain rfl | ⟨w, rfl, hp⟩ := List.prefix_cons_iff.mp h
    case inl => exact List.nil_prefix
    case inr =>
      have hw := List.ne_and_not_mem_of_not_mem_cons hw
      have untouched : ¬ (c = m ∧ isCode d) := fun hc => hw.left (if_pos hc).symm
      simpa only [untouched, if_false, List.cons_prefix_cons, true_and] using ih hw.right hp
  | case2 => exact h

theorem infix_of_infix_translate (hw : sign ∉ w) (h : w <:+: translate m s) : w <:+: s := by
  have here (hp : w <+: translate m s) : w <:+: s := (prefix_of_prefix_translate hw hp).isInfix
  fun_induction translate m s with
  | case1 c d cs ih =>
    obtain hp | hi := List.infix_cons_iff.mp h
    case inl => exact here hp
    case inr =>
      exact List.infix_cons (ih hi fun hp => (prefix_of_prefix_translate hw hp).isInfix)
  | case2 => exact h

theorem prefix_of_prefix_expandHex (hw : marker ∉ w) (h : w <+: expandHex s) : w <+: s := by
  fun_induction expandHex s generalizing w with
  | case1 => exact h
  | case2 c cs digits rest ho ih =>
    obtain rfl | ⟨w, rfl, -⟩ := List.prefix_cons_iff.mp h
    case inl => exact List.nil_prefix
    case inr => exact absurd (.head w) hw
  | case3 c cs ho ih =>
    obtain rfl | ⟨w, rfl, hp⟩ := List.prefix_cons_iff.mp h
    case inl => exact List.nil_prefix
    case inr => exact List.cons_prefix_cons.mpr ⟨rfl, ih (List.not_mem_of_not_mem_cons hw) hp⟩

theorem mem_spread (hd : ∀ d ∈ digits, isHexDigit d) (hc : c ∈ spread digits) : c = marker ∨ isCode c := by
  obtain rfl | hm := mem_marked hc
  case inl => exact .inl rfl
  case inr =>
    obtain rfl | hm := List.mem_cons.mp hm
    case inl => exact .inr (by decide)
    case inr => exact .inr (isCode_of_isHexDigit (hd c hm))

theorem infix_of_infix_expandHex (hw : Fixed w) (h : w <:+: expandHex s) : w <:+: s := by
  fun_induction expandHex s with
  | case1 => exact h
  | case2 c cs digits rest ho ih =>
    obtain ⟨ht, -, hd⟩ := hexColor?_eq_some_iff.mp ho
    have opens : ∀ a ∈ w.head?, a ∉ spread digits := by
      intro a ha hm
      cases mem_spread hd hm with
      | inl he => exact hw.marker (he ▸ List.mem_of_mem_head? ha)
      | inr hc => simp [(hw.calm a ha).left] at hc
    have behind : w <:+: rest := ih (Text.infix_of_infix_append opens hw.nonempty h)
    rw [ht]
    exact behind.trans (List.suffix_append _ rest).isInfix
  | case3 c cs ho ih =>
    obtain hp | hi := List.infix_cons_iff.mp h
    case inl =>
      rw [← expandHex_cons_of_not_opens ho] at hp
      exact (prefix_of_prefix_expandHex hw.marker hp).isInfix
    case inr => exact List.infix_cons (ih hi)

theorem Fixed.infix_of_infix_colorize (hw : Fixed w) (h : w <:+: colorize s) : w <:+: s := by
  rw [colorize_eq] at h
  exact infix_of_infix_expandHex hw (infix_of_infix_translate hw.sign h)

theorem Fixed.colorize_append (hw : Fixed w) (s : List Char) :
    colorize (u ++ (w ++ s)) = colorize u ++ (w ++ colorize s) := by
  have calm : Calm (w ++ s) := by
    obtain ⟨a, v, rfl⟩ := List.exists_cons_of_ne_nil hw.nonempty
    exact hw.calm
  rw [Color.colorize_append calm, colorize_append_of_not_mem hw.marker]

end Chatline.Color
