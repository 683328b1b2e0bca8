import Chatline.Proofs.Format.Pieces
import Chatline.Proofs.Text.Cut

namespace Chatline

open Color (Fixed colorize)
open Text (Cut Legible)

namespace Text.Cut

variable {τ : Type} {spell token : τ → List Char} {s : List Char}

theorem colorize_write (fixed : ∀ t, Fixed (token t)) (c : Cut τ) :
    colorize (c.write token id) = c.write token colorize := by
  induction c with
  | last s        => rfl
  | next s t c ih => rw [write, write, id, (fixed t).colorize_append, ih]

theorem Of.colorize {c : Cut τ} (hc : c.Of spell s) (fixed : ∀ t, Fixed (spell t)) :
    (c.map Color.colorize).Of spell (Color.colorize s) where
  text  := by rw [write_map, ← hc.text, colorize_write fixed, Function.id_comp]
  clean := by
    intro u hu t hi
    rw [literals_map] at hu
    have ⟨v, hv, he⟩ := List.mem_map.mp hu
    exact hc.clean v hv t ((fixed t).infix_of_infix_colorize (he ▸ hi))

end Text.Cut

-- What coloring has to leave as it is: placeholders, and the slots of a compiled format.
inductive Mark
  | hole (p : Placeholder)
  | shownName
  | message
  deriving DecidableEq

namespace Mark

def all : List Mark :=
  shownName :: message :: Placeholder.all.map hole

theorem mem_all (t : Mark) : t ∈ all := by
  cases t with
  | hole p    => simp [all, p.mem_all]
  | shownName => simp [all]
  | message   => simp [all]

def spelled : Mark → List Char
  | hole p    => p.spelling.toList
  | shownName => ['%', '1', '$', 's']
  | message   => ['%', '2', '$', 's']

def opening : Mark → Char
  | hole _ => Placeholder.opening
  | _      => '%'

theorem spelled_eq (t : Mark) : t.spelled = t.opening :: t.spelled.tail := by
  cases t with
  | hole p    => exact p.spelling_eq
  | shownName => rfl
  | message   => rfl

theorem legible : Legible spelled where
  opens t := by
    have inner : ∀ t ∈ all, ∀ u ∈ all, t.opening ∉ u.spelled.tail := by decide
    exact ⟨_, _, t.spelled_eq, fun u => inner t t.mem_all u u.mem_all⟩
  begins t u := by
    have apart : ∀ t ∈ all, ∀ u ∈ all, t.spelled <+: u.spelled → t = u := by decide
    exact apart t t.mem_all u u.mem_all

theorem fixed (t : Mark) : Fixed t.spelled := by
  have calm : ∀ t ∈ all, Color.isCode t.opening = false ∧ t.opening ≠ '#' := by decide
  have bare : ∀ t ∈ all, Color.marker ∉ t.spelled ∧ Color.sign ∉ t.spelled := by decide
  have ⟨marker, sign⟩ := bare t t.mem_all
  refine ⟨legible.ne_nil t, ?_, marker, sign⟩
  rw [t.spelled_eq]
  simpa [Color.Calm] using calm t t.mem_all

end Mark

namespace Placeholder

def spelled (p : Placeholder) : List Char :=
  p.spelling.toList

theorem legible : Legible spelled :=
  Mark.legible.comp fun _ _ => Mark.hole.inj

theorem fixed (p : Placeholder) : Fixed p.spelled :=
  (Mark.hole p).fixed

def compiled : Placeholder → List Char
  | displayName => ['%', '1', '$', 's']
  | message     => ['%', '2', '$', 's']
  | p           => p.spelled

theorem fixed_compiled (p : Placeholder) : Fixed p.compiled := by
  cases p
  case displayName => exact Mark.shownName.fixed
  case message => exact Mark.message.fixed
  all_goals exact fixed _

def halfCompiled : Placeholder → List Char
  | displayName => ['%', '1', '$', 's']
  | p           => p.spelled

theorem opens_spelled (p q : Placeholder) : ∃ a v, p.spelled = a :: v ∧ a ∉ q.spelled.tail :=
  have ⟨a, v, ha, hi⟩ := legible.opens p
  ⟨a, v, ha, hi q⟩

theorem replace_displayName (p : Placeholder) (w : List Char) :
    Text.replace displayName.spelled ['%', '1', '$', 's'] (p.spelled ++ w) =
      p.halfCompiled ++ Text.replace displayName.spelled ['%', '1', '$', 's'] w := by
  cases p
  case displayName => exact replace_self
  all_goals exact replace_other (by decide)

theorem replace_message (p : Placeholder) (w : List Char) :
    Text.replace message.spelled ['%', '2', '$', 's'] (p.halfCompiled ++ w) =
      p.compiled ++ Text.replace message.spelled ['%', '2', '$', 's'] w := by
  cases p
  case displayName => exact replace_literal (by decide)
  case message => exact replace_self
  all_goals exact replace_other (by decide)

end Placeholder

namespace Template

open Placeholder

theorem insertSlots_cut {source : String} {c : Cut Placeholder} (hc : c.Of spelled source.toList) :
    (insertSlots source).toList = c.write compiled id := by
  have opens (p : Placeholder) : ∃ a v, p.halfCompiled = a :: v ∧ a ∉ message.spelled.tail := by
    cases p
    case displayName => exact ⟨_, _, rfl, by decide⟩
    all_goals exact opens_spelled _ _
  have first := Cut.replace_write replace_displayName (opens_spelled · displayName) fun u hu => hc.clean u hu _
  have second := Cut.replace_write replace_message opens fun u hu => hc.clean u hu _
  rw [← second, ← first, hc.text, insertSlots_eq]
  simp only [Placeholder.replace, String.toList_ofList]
  rfl

-- A format is compiled piece by piece: the literal texts are colored, and the placeholders become what they are
-- compiled into. There is but one way to cut a format into these pieces. It does not matter whether the slots
-- are put in first or the colors, because no mark of any text takes part in a color, and coloring brings in no
-- mark that has not been there.
theorem compiled_piecewise (raw : String) :
    (∃ c : Cut Placeholder, (c.Of spelled raw.toList ∧ ∀ c', c'.Of spelled raw.toList → c' = c) ∧
      (compile (some raw)).text = .ofList (c.write compiled colorize)) ∧
    insertSlots (.ofList (colorize raw.toList)) = (compile (some raw)).text ∧
    ∀ s, ∃ c : Cut Mark, (c.Of Mark.spelled s ∧ ∀ c', c'.Of Mark.spelled s → c' = c) ∧
      (c.map colorize).Of Mark.spelled (colorize s) := by
  have ⟨c, hc⟩ := legible.exists_cut raw.toList
  have compiled : (compile (some raw)).text = .ofList (c.write compiled colorize) := by
    simp only [compile]
    rw [Option.getD_some, insertSlots_cut hc, Cut.colorize_write fixed_compiled]
  refine ⟨⟨c, ⟨hc, fun c' hc' => legible.cut_unique hc' hc⟩, compiled⟩, ?_, fun s => ?_⟩
  case refine_1 =>
    have colored : (c.map colorize).Of spelled (String.ofList (colorize raw.toList)).toList := by
      rw [String.toList_ofList]
      exact hc.colorize fixed
    apply String.toList_injective
    rw [insertSlots_cut colored, Cut.write_map, compiled, String.toList_ofList, Function.id_comp]
  case refine_2 =>
    have ⟨d, hd⟩ := Mark.legible.exists_cut s
    exact ⟨d, ⟨hd, fun d' hd' => Mark.legible.cut_unique hd' hd⟩, hd.colorize Mark.fixed⟩

example : (compile (some "&\x7bdisplayname\x7d&#12345\x7bmessage\x7d6\x7bna\x7bname\x7d&a")).text =
    "&%1$s&#12345%2$s6\x7bna\x7bname\x7d§a" := by
  decide +kernel

end Template
end Chatline
