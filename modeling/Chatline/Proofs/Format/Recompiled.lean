import Chatline.Proofs.Color.Normal
import Chatline.Proofs.Format.Compiled

namespace Chatline

open Color (Normal colorize colorizeValue)

namespace Placeholder

variable {p : Placeholder}

def mark : Placeholder → Mark
  | displayName => .shownName
  | message     => .message
  | p           => .hole p

theorem compiled_eq (p : Placeholder) : p.compiled = p.mark.spelled := by
  cases p <;> rfl

theorem mark_ne (known : p.compiledOnLoad) (q : Placeholder) : q.mark ≠ .hole p := by
  intro he
  cases q
  case displayName => cases he
  case message => cases he
  all_goals
    cases he
    cases known

theorem replace_of_not_infix {value text : String} (h : ¬ p.spelled <:+: text.toList) :
    p.replace value text = text := by
  have same : Text.replace p.spelling.toList value.toList text.toList = text.toList := Text.replace_of_not_infix h
  rw [replace, same, String.ofList_toList]

end Placeholder

namespace Template

open Placeholder

variable {p : Placeholder}

theorem not_infix_insertSlots (known : p.compiledOnLoad) (source : String) :
    ¬ p.spelled <:+: (insertSlots source).toList := by
  have ⟨c, hc⟩ := legible.exists_cut source.toList
  rw [insertSlots_cut hc, funext compiled_eq]
  exact Mark.legible.not_infix_write (mark_ne known) fun u hu => hc.clean u hu p

theorem not_infix_compile (known : p.compiledOnLoad) (raw : Option String) :
    ¬ p.spelled <:+: (compile raw).text.toList := by
  intro hi
  rw [compile, String.toList_ofList] at hi
  exact not_infix_insertSlots known _ (p.fixed.infix_of_infix_colorize hi)

-- A format that has been compiled is in a normal form, which compiling it once more leaves alone: its colors are
-- those of clients, and its slots have been put in.
theorem compiled_normal (raw value : Option String) (s : List Char) :
    ((compile (some (compile raw).text)).text = (compile raw).text ∧
      ¬ displayName.spelled <:+: (compile raw).text.toList ∧ ¬ message.spelled <:+: (compile raw).text.toList) ∧
    colorizeValue (some (colorizeValue value)) = colorizeValue value ∧
    Normal (colorize s) ∧ (colorize s = s ↔ Normal s) := by
  refine ⟨?compiled, ?value, Color.normal_colorize s, Color.colorize_eq_self_iff⟩
  case compiled =>
    have noName := not_infix_compile (p := displayName) rfl raw
    have noMessage := not_infix_compile (p := message) rfl raw
    have slotted : insertSlots (compile raw).text = (compile raw).text := by
      rw [insertSlots_eq, displayName.replace_of_not_infix noName, message.replace_of_not_infix noMessage]
    refine ⟨?_, noName, noMessage⟩
    simp only [compile, Option.getD_some]
    simp only [compile] at slotted
    rw [slotted, String.toList_ofList, Color.colorize_colorize]
  case value =>
    cases value with
    | none   => decide +kernel
    | some t => simp only [colorizeValue, String.toList_ofList, Color.colorize_colorize]

end Template
end Chatline
