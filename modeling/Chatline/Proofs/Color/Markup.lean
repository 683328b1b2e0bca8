import Chatline.Proofs.Color.Stripped
import Mathlib.Data.List.Flatten

namespace Chatline.Color

variable {c : Char} {s digits rest : List Char}

theorem translate_marked (h : ∀ d ∈ digits, isCode d) :
    translate marker (marked marker digits ++ s) = marked sign digits ++ translate marker s := by
  induction digits with
  | nil => rfl
  | cons d digits ih =>
    have hd : isCode d := h d (.head digits)
    have ih := ih fun e he => h e (.tail d he)
    rw [marked_cons, List.cons_append, List.cons_append, translate, if_pos ⟨rfl, hd⟩,
      translate_cons_of_ne (ne_of_isCode hd).left, ih]
    rfl

theorem Opens.codes (h : Opens digits rest s) : ∀ d ∈ 'x' :: digits, isCode d :=
  List.forall_mem_cons.mpr ⟨by decide, fun d hd => isCode_of_isHexDigit (h.digits d hd)⟩

theorem colorize_of_opens (h : Opens digits rest s) : colorize s = marked sign ('x' :: digits) ++ colorize rest := by
  simp only [colorize_eq, expandHex_of_opens h, spread_eq, translate_marked h.codes]

theorem hexColor?_marker_of_ne (h : c ≠ '#') : hexColor? (marker :: c :: s) = none :=
  hexColor?.eq_2 _ fun _ _ _ _ _ _ _ he => h (List.cons.inj (List.cons.inj he).right).left

theorem colorize_code (h : isCode c) : colorize (marker :: c :: s) = sign :: c :: colorize s := by
  have closed : hexColor? (marker :: c :: s) = none := by
    apply hexColor?_marker_of_ne
    rintro rfl
    exact absurd h (by decide)
  have hc : c ≠ marker := (ne_of_isCode h).left
  rw [colorize_eq, expandHex_cons_of_not_opens closed, expandHex_cons_of_not_opens (hexColor?_cons_of_ne hc), translate,
    if_pos ⟨rfl, h⟩, translate_cons_of_ne hc, colorize_eq]

theorem colorize_plain (closed : hexColor? (c :: s) = none) (bare : c = marker → ∀ d ∈ s.head?, isCode d = false) :
    colorize (c :: s) = c :: colorize s := by
  rw [colorize_eq, expandHex_cons_of_not_opens closed, colorize_eq]
  rw [← head?_expandHex] at bare
  cases he : expandHex s with
  | nil      => rfl
  | cons d w =>
    have untouched : ¬ (c = marker ∧ isCode d) := by
      rintro ⟨hc, hd⟩
      have uncoded : isCode d = false := bare hc d (by rw [he]; rfl)
      simp [uncoded] at hd
    rw [translate, if_neg untouched]

-- What a configured text is made of: hex colors, codes behind a marker, and characters that stand for themselves.
inductive Markup
  | hex (digits : List Char)
  | code (c : Char)
  | plain (c : Char)
  deriving DecidableEq, Repr

namespace Markup

def typed : Markup → List Char
  | hex digits => '&' :: '#' :: digits
  | code c     => ['&', c]
  | plain c    => [c]

def shown : Markup → List Char
  | hex digits => marked '§' ('x' :: digits)
  | code c     => ['§', c]
  | plain c    => [c]

def kept : Markup → List Char
  | plain c => [c]
  | _       => []

def read : List Char → List Markup
  | '&' :: '#' :: a :: b :: c :: d :: e :: f :: cs =>
    if [a, b, c, d, e, f].all isHexDigit then hex [a, b, c, d, e, f] :: read cs
    else plain '&' :: read ('#' :: a :: b :: c :: d :: e :: f :: cs)
  | '&' :: c :: cs => if isCode c then code c :: read cs else plain '&' :: read (c :: cs)
  | c :: cs        => plain c :: read cs
  | []             => []

inductive Reads : List Char → List Markup → Prop
  | done : Reads [] []
  | hex {digits rest s ms} : Opens digits rest s → Reads rest ms → Reads s (hex digits :: ms)
  | code {c s ms} : isCode c → Reads s ms → Reads (marker :: c :: s) (code c :: ms)
  | plain {c s ms} :
    hexColor? (c :: s) = none → (c = marker → ∀ d ∈ s.head?, isCode d = false) → Reads s ms →
    Reads (c :: s) (plain c :: ms)

theorem reads (s : List Char) : Reads s (read s) := by
  fun_induction read s with
  | case1 a b c d e f cs hd ih =>
    exact .hex { text := rfl, six := rfl, digits := List.all_eq_true.mp hd } ih
  | case2 a b c d e f cs hd ih =>
    have closed : hexColor? ('&' :: '#' :: a :: b :: c :: d :: e :: f :: cs) = none := by simp only [hexColor?, hd]; rfl
    have bare : isCode '#' = false := by decide
    exact .plain closed (by simpa using fun _ => bare) ih
  | case3 c cs _ hc ih => exact .code hc ih
  | case4 c cs ho hc ih =>
    have closed : hexColor? ('&' :: c :: cs) = none := by
      apply hexColor?.eq_2
      intro a b c d e f rest he
      obtain ⟨-, he⟩ := List.cons.inj he
      exact ho a b c d e f rest (List.cons.inj he).left (List.cons.inj he).right
    exact .plain closed (by simpa using fun _ => hc) ih
  | case5 c cs ho hc ih =>
    by_cases hm : c = marker
    case neg => exact .plain (hexColor?_cons_of_ne hm) (fun h => absurd h hm) ih
    case pos =>
      cases cs with
      | nil       => exact .plain (by rw [hm]; rfl) (by simp) ih
      | cons d cs => exact absurd rfl (hc d cs hm)
  | case6 => exact .done

variable {ms : List Markup}

theorem Reads.typed (h : Reads s ms) : ms.flatMap Markup.typed = s := by
  induction h with
  | done => rfl
  | hex ho _ ih => rw [List.flatMap_cons, ih]; exact ho.text.symm
  | code hc _ ih => rw [List.flatMap_cons, ih]; rfl
  | plain _ _ _ ih => rw [List.flatMap_cons, ih]; rfl

theorem Reads.shown (h : Reads s ms) : colorize s = ms.flatMap Markup.shown := by
  induction h with
  | done => exact colorize_nil
  | hex ho _ ih => rw [List.flatMap_cons, ← ih]; exact colorize_of_opens ho
  | code hc _ ih => rw [List.flatMap_cons, ← ih]; exact colorize_code hc
  | plain closed bare _ ih => rw [List.flatMap_cons, ← ih]; exact colorize_plain closed bare

theorem Reads.kept (h : Reads s ms) (hs : sign ∉ s) : strip (ms.flatMap Markup.shown) = ms.flatMap Markup.kept := by
  induction h with
  | done => rfl
  | hex ho _ ih =>
    rw [ho.text] at hs
    rw [List.flatMap_cons, List.flatMap_cons, ← ih fun h => hs (List.mem_append_right _ h)]
    exact strip_marked ho.codes
  | code hc _ ih =>
    rw [List.flatMap_cons, List.flatMap_cons, ← ih fun h => hs (.tail _ (.tail _ h))]
    exact strip_sequence hc
  | plain _ _ _ ih =>
    have ⟨hc, hs⟩ := List.ne_and_not_mem_of_not_mem_cons hs
    rw [List.flatMap_cons, List.flatMap_cons, ← ih hs]
    exact strip_cons_of_ne hc.symm

theorem kept_sublist (ms : List Markup) : (ms.flatMap Markup.kept).Sublist (ms.flatMap Markup.typed) := by
  apply List.Sublist.flatMap_right
  intro m _
  cases m with
  | hex digits => exact List.nil_sublist _
  | code c     => exact List.nil_sublist _
  | plain c    => exact List.Sublist.refl _

end Markup

open Markup

-- Although hex colors are spread over the whole text before any marker is translated, the text need be read only
-- once: neither pass makes or unmakes what the other one looks for.
theorem colorize_in_one_scan (text : String) :
    colorizeValue (some text) = .ofList ((read text.toList).flatMap shown) := by
  rw [colorizeValue, (reads text.toList).shown]

example : read "&&#aabbcc&#12345&#abcdefa".toList =
    plain '&' :: hex "aabbcc".toList :: ("&#12345".toList.map plain ++ [hex "abcdef".toList, plain 'a']) := by
  decide

-- What is printed plainly is the text as it has been typed, without its markup. A text is put together from its
-- markup and what is kept, and is read in but one way.
theorem strip_colorize (h : sign ∉ s) :
    strip (colorize s) = (read s).flatMap kept ∧ sign ∉ strip (colorize s) ∧ (read s).flatMap typed = s := by
  have whole : (read s).flatMap typed = s := (reads s).typed
  have stripped : strip (colorize s) = (read s).flatMap kept := by rw [(reads s).shown, (reads s).kept h]
  have unsigned : sign ∉ (read s).flatMap kept := by
    intro hm
    have hm : sign ∈ (read s).flatMap typed := (kept_sublist (read s)).subset hm
    exact h (whole ▸ hm)
  exact ⟨stripped, stripped ▸ unsigned, whole⟩

theorem strip_colorize_ragged :
    sign ∉ "&&aa&#1A2B3C&#".toList ∧ strip (colorize "&&aa&#1A2B3C&#".toList) = "&a&#".toList ∧
      sign ∉ strip (colorize "&&aa&#1A2B3C&#".toList) ∧
      (read "&&aa&#1A2B3C&#".toList).flatMap typed = "&&aa&#1A2B3C&#".toList := by
  have h : sign ∉ "&&aa&#1A2B3C&#".toList := by decide
  have ⟨stripped, unsigned, whole⟩ := strip_colorize h
  exact ⟨h, stripped.trans (by decide), unsigned, whole⟩

end Chatline.Color
