import Chatline.Proofs.Format.Inserted
import Chatline.Proofs.Passing.Verbatim

namespace Chatline.Behaviour

variable {ξ σ α β : Type}

-- Names are put into the format, so slots in them are read as slots. Once a plugin has been put to work with
-- a format, and if nobody else observes the messages and there are no providers, all messages of a player come
-- out as they should if and only if no slot begins in the name where the format has it.
theorem names_shown {behave : Behaviour ξ σ} {id : PluginId} {settings : Option Settings} {b : BusId}
    {n l : Nat} {h h' : Host ξ σ} (files : FileTree) (environment : Environment) (memory : σ)
    (before : Program ξ σ β)
    (reached : (before.run (Host.perform behave l) (.new files environment memory)).2 = h)
    (bus : (h.plugin id).bus = b) (vacant : (h.bus b).live Host.chatTopic = [])
    (mild : ∀ x e, (behave x e).Keeps (Act.Mild fun _ => False))
    (enabled : (Host.perform behave (n + 1) (.enable id settings) h).1 = .ok ())
    {s : Settings} (chosen : ((h.provideDefault id).2.chosen id settings).1 = .ok s)
    {ps : List Piece} (colorless : Piece.Colorless ps)
    (format : s.format.getD Template.defaultFormat = .ofList (Piece.join ps))
    (p : Program ξ σ α) (chatting : p.Keeps (Act.Chatting fun _ => False))
    (since : (p.run (Host.perform behave (n + 1)) (Host.perform behave (n + 1) (.enable id settings) h).2).2 = h')
    (unbound : (h'.plugin id).bindings = {}) (identity : Identity) (name : String) :
    (∀ displayName body, ∃ m h'',
      Host.perform behave (n + 1) (.publish b { identity, name, displayName } body) h' = (.ok m, h'') ∧
        m.render = .ofList (ps.flatMap
          (Piece.expected name.toList (displayName.getD name).toList body.toList))) ↔
      Piece.Clear name.toList ps := by
  have sound : h.Sound := reached ▸ .run before l files environment memory
  have ongoing : Host.Ongoing (fun _ => False) id _ h' := since ▸ ongoing_run mild chatting
  have alone : h'.Staffed b id [] := by
    have quiet : ∀ x e, (behave x e).Keeps (Act.Mild (· = id)) :=
      fun x e => (mild x e).mono fun _ ha => ha.mono fun _ hf => hf.elim
    exact (Host.staffed_of_vacant sound.sorted bus vacant quiet enabled).ongoing ongoing
  have template : (h'.plugin id).template = .compile (some (.ofList (Piece.join ps))) := by
    rw [ongoing.template not_false, Host.template_of_enabled mild enabled chosen, ← format]
    cases s.format <;> rfl
  have ⟨h'', told⟩ := alone.publish_alone identity name
  -- Every message goes out with the name in its format, whatever else is in it.
  have line (displayName : Option String) (body : String) : ∃ m,
      Host.perform behave (n + 1) (.publish b { identity, name, displayName } body) h' = (.ok m, h'') ∧
        m.render = .ofList (Line.fill (displayName.getD name).toList body.toList
          (Line.segments (Piece.join (ps.map (Piece.named name.toList))))) := by
    have published := told (behave.guests n) displayName body
    rw [unbound, template, Bindings.settled_colorless colorless] at published
    refine ⟨_, by rw [Host.perform_publish, published], ?_⟩
    exact Line.render_ofList _ _ _
  constructor
  case mp =>
    intro shown
    have ⟨m, _, sent, expected⟩ := shown (some (.ofList Line.sample)) (.ofList Line.sample)
    have ⟨m', sent', filled⟩ := line (some (.ofList Line.sample)) (.ofList Line.sample)
    rw [sent'] at sent
    cases sent
    rw [filled, Option.getD_some, String.toList_ofList] at expected
    exact Piece.clear_of_fill_sample colorless (String.ofList_injective expected)
  case mpr =>
    intro clear displayName body
    have ⟨m, sent, filled⟩ := line displayName body
    rw [Piece.fill_join_named colorless clear] at filled
    exact ⟨m, h'', sent, filled⟩

def labelled : List Piece :=
  [.hole .name, .text [':', ' '], .hole .message]

def labelling : Settings :=
  { Settings.default with format := some (.ofList (Piece.join labelled)) }

theorem names_shown_labelled :
    (Host.perform idle 2 (.enable ⟨2⟩ (some labelling)) unattended).1 = .ok () ∧
      ∀ displayName body, ∃ m h'',
        Host.perform idle 2 (.publish ⟨0⟩ { identity := .oidSpace, name := "100%", displayName } body)
          (Host.perform idle 2 (.enable ⟨2⟩ (some labelling)) unattended).2 = (.ok m, h'') ∧
          m.render = .ofList (labelled.flatMap
            (Piece.expected "100%".toList (displayName.getD "100%").toList body.toList)) := by
  have enabled : (Host.perform idle 2 (.enable ⟨2⟩ (some labelling)) unattended).1 = .ok () := rfl
  have clear : Piece.Clear "100%".toList labelled :=
    ⟨fun _ => by decide, fun he => (nomatch he), fun he => (nomatch he), trivial⟩
  have colorless : Piece.Colorless labelled := by
    simp [Piece.Colorless, labelled, Inert, Placeholder.opening, Color.marker]
  have nothing : (pure () : Program Empty Unit Unit).Keeps (Act.Chatting fun _ => False) := trivial
  have shown := names_shown .bare {} () _ rfl rfl rfl (fun x _ => x.elim) enabled rfl colorless rfl
    (pure ()) nothing rfl rfl .oidSpace "100%"
  exact ⟨enabled, shown.mpr clear⟩

theorem name_read_as_slot :
    ∃ m h'',
      Host.perform idle 2 (.publish ⟨0⟩ (.offline "%1$s" (some "D")) "hi")
        (Host.perform idle 2 (.enable ⟨2⟩ (some labelling)) unattended).2 = (.ok m, h'') ∧
        m.render = "D: hi" ∧
          m.render ≠ .ofList (labelled.flatMap (Piece.expected "%1$s".toList "D".toList "hi".toList)) :=
  ⟨_, _, rfl, by decide +kernel, by decide +kernel⟩

end Chatline.Behaviour
