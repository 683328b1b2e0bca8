import Chatline.Proofs.Format.Compiled

namespace Chatline

open Text (Cut Legible)

namespace Text

variable {p s : List Char}

theorem occurs_iff_infix : occurs p s ↔ p <:+: s := by
  induction s with
  | nil => simp [occurs]
  | cons c s ih => simp [occurs, List.infix_cons_iff, ih]

namespace Cut

variable {τ : Type}

def tokens : Cut τ → List τ
  | last _     => []
  | next _ t c => t :: c.tokens

theorem Of.exists_infix_iff {spell : τ → List Char} {c : Cut τ} (hc : c.Of spell s) :
    (∃ t, spell t <:+: s) ↔ c.tokens ≠ [] := by
  cases c with
  | last u =>
    obtain rfl : u = s := hc.text
    simpa [tokens] using hc.clean u (.head _)
  | next u t c =>
    have here : spell t <:+: s := ⟨u, c.write spell id, by simpa [write] using hc.text⟩
    simpa [tokens] using ⟨t, here⟩

end Cut
end Text

namespace Placeholder

variable {κ : Type} {p : Placeholder} {text value : String} {c : Cut Unit}

theorem legible_alone (p : Placeholder) : Legible fun _ : Unit => p.spelled :=
  legible.comp fun _ _ _ => rfl

theorem occursIn_iff (hc : c.Of (fun _ => p.spelled) text.toList) : p.occursIn text ↔ c.tokens ≠ [] := by
  rw [occursIn, Text.occurs_iff_infix, ← hc.exists_infix_iff, exists_const]
  rfl

theorem replace_cut (hc : c.Of (fun _ => p.spelled) text.toList) :
    p.replace value text = .ofList (c.write (fun _ => value.toList) id) := by
  have opens (_ : Unit) : ∃ a v, p.spelled = a :: v ∧ a ∉ p.spelled.tail := opens_spelled p p
  have replaced : Text.replace p.spelled value.toList (c.write (fun _ => p.spelled) id) =
      c.write (fun _ => value.toList) id :=
    Cut.replace_write (fun _ _ => replace_self) opens fun u hu => hc.clean u hu ()
  rw [hc.text] at replaced
  rw [replace, ← replaced]
  rfl

theorem fill_of_present (h : p.occursIn text) (supply : Inquiry κ (Option String)) :
    (p.fill supply text).asked = supply.asked ∧
      (p.fill supply text).outcome = supply.outcome.map (·.elim text (p.replace · text)) := by
  rw [fill, if_pos h]
  cases ho : supply.outcome with
  | error e => simp [Inquiry.bind_error ho, Except.map]
  | ok value =>
    rw [Inquiry.bind_ok ho]
    cases value <;> simp [Inquiry.pure_def, Except.map]

-- A text is cut at a placeholder in but one way, and filling it in puts the value, as it is, between the parts. The
-- value is not searched, neither for itself nor together with the parts that it comes to stand between. It is asked
-- for once if there is a gap to be filled, and otherwise not at all.
theorem fill_literally (p : Placeholder) (text : String) :
    ∃ c : Cut Unit, (c.Of (fun _ => p.spelled) text.toList ∧ ∀ c', c'.Of (fun _ => p.spelled) text.toList → c' = c) ∧
      ∀ {κ : Type} (supply : Inquiry κ (Option String)),
        (p.fill supply text).asked = (if c.tokens = [] then [] else supply.asked) ∧
        (p.fill supply text).outcome =
          if c.tokens = [] then .ok text
          else supply.outcome.map (·.elim text fun value => .ofList (c.write (fun _ => value.toList) id)) := by
  have ⟨c, hc⟩ := p.legible_alone.exists_cut text.toList
  refine ⟨c, ⟨hc, fun c' hc' => p.legible_alone.cut_unique hc' hc⟩, fun supply => ?_⟩
  by_cases whole : c.tokens = []
  case pos =>
    have absent : p.occursIn text = false := by
      rw [Bool.eq_false_iff, Ne, occursIn_iff hc]
      exact fun h => h whole
    rw [fill_of_not_occursIn absent, if_pos whole, if_pos whole]
    exact ⟨rfl, rfl⟩
  case neg =>
    have ⟨asked, outcome⟩ := fill_of_present ((occursIn_iff hc).mpr whole) supply
    rw [if_neg whole, if_neg whole]
    simp only [replace_cut hc] at outcome
    exact ⟨asked, outcome⟩

example : (fill name (pure (some "") : Inquiry Unit _) "\x7bna\x7bname\x7dme\x7d").outcome = .ok "\x7bname\x7d" := by
  rfl

end Placeholder
end Chatline
