import Chatline.Console
import Chatline.Proofs.Color.Stripped

namespace Chatline.Console

open Color (sign strip Plain Nested)

def bare (text : String) : String :=
  .ofList (strip text.toList)

def Report.bare (r : Report) : Report :=
  { r with output := Console.bare r.output }

theorem bare_empty : bare "" = "" :=
  rfl

theorem bare_append_of_not_mem {text : String} (h : sign ∉ text.toList) (rest : String) :
    bare (text ++ rest) = text ++ bare rest := by
  rw [bare, String.toList_append, Color.strip_append_of_not_mem h, String.ofList_append, String.ofList_toList, bare]

theorem bare_of_not_mem {text : String} (h : sign ∉ text.toList) : bare text = text := by
  simpa [bare_empty] using bare_append_of_not_mem h ""

theorem bare_line (line rest : String) : bare (line ++ "\n" ++ rest) = bare line ++ "\n" ++ bare rest := by
  have ended : ∀ d ∈ ("\n" ++ rest).toList.head?, Color.isCode d = false := by
    have opened : ("\n" ++ rest).toList = '\n' :: rest.toList := String.toList_append
    have uncoded : Color.isCode '\n' = false := by decide
    simpa [opened] using uncoded
  rw [bare, String.append_assoc, String.toList_append, Color.strip_append ended, String.ofList_append, String.append_assoc]
  exact congrArg (bare line ++ ·) (bare_append_of_not_mem (by decide) rest)

def Seat.printing (s : Seat) (plain : Bool) : Seat :=
  { s with plain }

inductive Answered (h : Desk) : Except Failure Host.CommandReply × Desk → Prop
  | failed (f : Failure) (h' : Desk) : Answered h (.error f, h')
  | reloaded (h' : Desk) : Answered h (.ok { handled := true, messages := ["Reloaded successfully."] }, h')
  | unheard : Answered h (.ok { handled := false, messages := [] }, h)

theorem answered_command (h : Desk) (id : PluginId) (args : List String) : Answered h (h.command noGuests id args) := by
  simp only [Host.command]
  split
  case isFalse => exact .unheard
  case isTrue =>
    split
    case h_1 => exact .failed _ _
    case h_2 => exact .reloaded _

theorem unsigned_usage {label : String} (labelled : labels.contains (label.map Char.toLower)) :
    sign ∉ (String.join [s!"Usage: {label} reload" ++ "\n"]).toList := by
  have signless : sign ∉ label.toList := by
    intro hm
    have lowered : sign ∈ (label.map Char.toLower).toList := by
      rw [String.toList_map]
      exact List.mem_map.mpr ⟨sign, hm, by decide⟩
    have plain : ∀ l ∈ labels, sign ∉ l.toList := by decide
    exact plain _ (List.contains_iff_mem.mp labelled) lowered
  have usage : String.join [s!"Usage: {label} reload" ++ "\n"] = "Usage: " ++ label ++ " reload\n" := by
    simp [String.join, toString, String.append_assoc]
  rw [usage, String.toList_append, String.toList_append]
  simp only [List.mem_append, not_or]
  exact ⟨⟨by decide, signless⟩, by decide⟩

-- What is printed in color, and what is printed plainly instead. Nothing else differs, and it makes no difference
-- to whatever is printed next.
inductive Pared : Except Failure String × Desk → Except Failure String × Desk → Prop
  | failed {f h} : Pared (.error f, h) (.error f, h)
  | printed {out h} : (∀ rest, bare (out ++ rest) = bare out ++ bare rest) → Pared (.ok out, h) (.ok (bare out), h)

namespace Pared

variable {h : Desk}

theorem same {out : String} (unsigned : sign ∉ out.toList) : Pared (.ok out, h) (.ok out, h) := by
  have kept := bare_of_not_mem unsigned
  have apart (rest : String) : bare (out ++ rest) = bare out ++ bare rest := by
    rw [kept, bare_append_of_not_mem unsigned]
  have pared := printed (h := h) apart
  rwa [kept] at pared

theorem line (text : String) : Pared (.ok (text ++ "\n"), h) (.ok (bare text ++ "\n"), h) := by
  have ended : bare (text ++ "\n") = bare text ++ "\n" := by
    simpa [bare_empty] using bare_line text ""
  rw [← ended]
  exact printed fun rest => by rw [bare_line, ended]

theorem say (s : Seat) (body : String) :
    Pared (.ok (say (s.printing false) body h).1, (say (s.printing false) body h).2)
      (.ok (say (s.printing true) body h).1, (say (s.printing true) body h).2) :=
  line _

theorem behind {out : String} {x y : Except Failure String × Desk}
    (apart : ∀ rest, bare (out ++ rest) = bare out ++ bare rest) (hp : Pared x y) :
    Pared (x.1.map (out ++ ·), x.2) (y.1.map (bare out ++ ·), y.2) := by
  cases hp with
  | failed => exact failed
  | @printed out' h' apart' =>
    have joined (rest : String) : bare (out ++ out' ++ rest) = bare (out ++ out') ++ bare rest := by
      rw [String.append_assoc, apart, apart', apart, String.append_assoc]
    have pared := printed (h := h') joined
    rwa [apart] at pared

theorem feed (s : Seat) (text : String) : Pared (feed (s.printing false) text h) (feed (s.printing true) text h) := by
  simp only [Console.feed]
  split
  case h_1 => exact same (by decide)
  case h_2 label args _ =>
    split
    case isFalse => exact say s _
    case isTrue labelled =>
      have answered := answered_command h s.plugin args
      simp only [Seat.printing]
      generalize h.command noGuests s.plugin args = x at answered ⊢
      cases answered with
      | failed   => exact failed
      | reloaded =>
        have unsigned : sign ∉ (String.join ["Reloaded successfully." ++ "\n"]).toList := by decide
        exact same unsigned
      | unheard  => exact same (unsigned_usage labelled)

theorem read (s : Seat) (inputs : List Input) : Pared (read (s.printing false) inputs h) (read (s.printing true) inputs h) := by
  induction inputs generalizing h with
  | nil => exact same (by decide)
  | cons i inputs ih =>
    cases i with
    | interrupt => exact same (by decide)
    | change path content =>
      simp only [Console.read, step]
      have apart (rest : String) : bare ("" ++ rest) = bare "" ++ bare rest := by
        rw [bare_empty, String.empty_append, String.empty_append]
      exact behind apart ih
    | line text =>
      have fed := feed (h := h) s text
      simp only [Console.read, step]
      generalize Console.feed (s.printing false) text h = x at fed ⊢
      generalize Console.feed (s.printing true) text h = y at fed ⊢
      cases fed with
      | failed        => exact failed
      | printed apart =>
        simp only [Except.map]
        exact behind apart ih

end Pared

def chat (o : ChatOptions) : Option String → Command
  | some body => .render o body
  | none      => .console o

theorem sitDown_plain (o : ChatOptions) (plain : Bool) (path : Option String) (settings : Settings)
    (h : Desk) :
    sitDown { o with plain } path settings h =
      ((sitDown o path settings h).1.map (·.printing plain), (sitDown o path settings h).2) := by
  simp only [sitDown]
  split
  case h_1 => rfl
  case h_2 => rfl

variable (o : ChatOptions) (body path : Option String) (settings : Settings) (inputs : List Input) (h : Desk)

theorem render_pared (body : String) :
    Pared (render { o with plain := false } body path settings h)
      (render { o with plain := true } body path settings h) := by
  simp only [render, sitDown_plain]
  cases sitDown o path settings h with
  | mk outcome h' =>
    cases outcome with
    | error f => exact .failed
    | ok s    => exact .say s body

theorem perform_plain :
    (perform (chat { o with plain := true } body) path settings inputs h).1 =
      (perform (chat { o with plain := false } body) path settings inputs h).1.map Report.bare := by
  cases body with
  | some body =>
    have said := render_pared o path settings h body
    simp only [perform, chat]
    generalize render { o with plain := false } body path settings h = x at said ⊢
    generalize render { o with plain := true } body path settings h = y at said ⊢
    cases said with
    | failed  => rfl
    | printed => rfl
  | none =>
    simp only [perform, chat, sitDown_plain]
    cases sitDown o path settings h with
    | mk outcome h' =>
      cases outcome with
      | error f => rfl
      | ok s    =>
        have told := Pared.read (h := h') s inputs
        simp only [Except.map]
        generalize read (s.printing false) inputs h' = x at told ⊢
        generalize read (s.printing true) inputs h' = y at told ⊢
        cases told with
        | failed  => rfl
        | printed => rfl

theorem run_plain :
    (run (chat { o with plain := true } body) path inputs h).1 =
      (run (chat { o with plain := false } body) path inputs h).1.map Report.bare := by
  simp only [run]
  split
  case h_1 => rfl
  case h_2 settings h' _ => exact perform_plain o body path settings inputs h'

-- Stripping is done in one pass, which takes the sequences out that are there when it begins. So a sequence is left
-- exactly if the text has been nested, and what is printed plainly is what stripping leaves of that which would
-- have been printed in color.
theorem plain_unless_nested (s : List Char) :
    ((strip (strip s) = strip s ↔ Plain (strip s)) ∧ (Plain (strip s) ↔ ¬ Nested s)) ∧
    match (run (chat { o with plain := false } body) path inputs h).1 with
    | .ok r    =>
      (run (chat { o with plain := true } body) path inputs h).1 = .ok r.bare ∧
        (Plain r.bare.output.toList ↔ ¬ Nested r.output.toList)
    | .error f => (run (chat { o with plain := true } body) path inputs h).1 = .error f := by
  constructor
  case left => exact ⟨Color.strip_eq_self_iff, Color.plain_strip_iff⟩
  case right =>
    rw [run_plain]
    cases (run (chat { o with plain := false } body) path inputs h).1 with
    | error f => rfl
    | ok r    =>
      refine ⟨rfl, ?_⟩
      rw [Report.bare, bare, String.toList_ofList]
      exact Color.plain_strip_iff

def nester : ChatOptions where
  name        := "Ann"
  displayName := none
  format      := some "\x7bmessage\x7d"
  prefixText  := none
  suffixText  := none
  verifier    := none
  badge       := none
  plain       := true

theorem sequence_left_behind :
    strip "§§aa".toList = "§a".toList ∧ ¬ Plain (strip "§§aa".toList) ∧
      strip (strip "§§aa".toList) ≠ strip "§§aa".toList ∧
      ((run (chat nester (some "§§aa")) none [] (.new .bare {} ())).1.toOption.map Report.output) = some "§a\n" := by
  have left : strip "§§aa".toList = ['§', 'a'] := by decide
  refine ⟨left, fun plain => ?_, by decide, by decide +kernel⟩
  exact plain 'a' (by decide) (left ▸ List.infix_refl _)

end Chatline.Console
