import Chatline.Proofs.Passing.Alone
import Chatline.Proofs.Passing.Delivered

namespace Chatline.Behaviour

variable {ξ σ α β : Type}

-- Names and messages are opaque. Once a plugin has been put to work, whatever its format, and if nobody else
-- observes the messages, the line is put together from pieces that depend on the player alone, however the
-- providers answer. What the player is shown as and what the player says is inserted into them as it is. It
-- does not even make a difference to the host: the same is asked and logged.
theorem values_verbatim {behave : Behaviour ξ σ} {id : PluginId} {settings : Option Settings} {b : BusId}
    {n l : Nat} {h h' : Host ξ σ} (files : FileTree) (environment : Environment) (memory : σ)
    (before : Program ξ σ β)
    (reached : (before.run (Host.perform behave l) (.new files environment memory)).2 = h)
    (bus : (h.plugin id).bus = b) (vacant : (h.bus b).live Host.chatTopic = [])
    (mild : ∀ x e, (behave x e).Keeps (Act.Mild (· = id)))
    (enabled : (Host.perform behave (n + 1) (.enable id settings) h).1 = .ok ())
    (p : Program ξ σ α) (chatting : p.Keeps (Act.Chatting (· = id)))
    (since : (p.run (Host.perform behave (n + 1)) (Host.perform behave (n + 1) (.enable id settings) h).2).2 = h')
    (identity : Identity) (name : String) :
    ∃ (segs : List Line.Segment) (h'' : Host ξ σ), ∀ displayName body, ∃ m,
      Host.perform behave (n + 1) (.publish b { identity, name, displayName } body) h' = (.ok m, h'') ∧
        m.render = .ofList (Line.fill (displayName.getD name).toList body.toList segs) := by
  have sound : h.Sound := reached ▸ .run before l files environment memory
  have alone : h'.Staffed b id [] :=
    since ▸ (Host.staffed_of_vacant sound.sorted bus vacant mild enabled).ongoing (ongoing_run mild chatting)
  have ⟨h'', told⟩ := alone.publish_alone identity name
  let format := (h'.plugin id).bindings.settled h'.provider identity name (h'.plugin id).template.text
  refine ⟨Line.segments format.toList, h'', fun displayName body => ?_⟩
  have published := told (behave.guests n) displayName body
  refine ⟨{ ChatMessage.new { identity, name, displayName } body with format }, ?sent, rfl⟩
  case sent =>
    rw [Host.perform_publish, published]

def grumpy : Provider :=
  .chatMeta "grumpy" (fun _ => .error (.raised "no")) fun _ => .ok (some "&c%2$s")

def introduceGrumpy : Program Empty Unit Unit := do
  let _ ← Program.perform (.introduce grumpy)
  let _ ← Program.perform (.register ⟨1⟩ .chatMeta ⟨3⟩)

def ragged : Settings :=
  { Settings.default with format := some "\x7b%%\x7bprefix\x7d%1$s&a\x7bname\x7d\x7bmessage\x7d%" }

theorem values_verbatim_ragged :
    (Host.perform idle 2 (.enable ⟨2⟩ (some ragged)) unattended).1 = .ok () ∧
      ∃ (segs : List Line.Segment) (h'' : Host Empty Unit), ∀ displayName body, ∃ m,
        Host.perform idle 2 (.publish ⟨0⟩ { identity := .oidSpace, name := "%2$s", displayName } body)
          (introduceGrumpy.run (Host.perform idle 2)
            (Host.perform idle 2 (.enable ⟨2⟩ (some ragged)) unattended).2).2 = (.ok m, h'') ∧
          m.render = .ofList (Line.fill (displayName.getD "%2$s").toList body.toList segs) := by
  have enabled : (Host.perform idle 2 (.enable ⟨2⟩ (some ragged)) unattended).1 = .ok () := rfl
  have chatting : introduceGrumpy.Keeps (Act.Chatting (· = ⟨2⟩)) :=
    ⟨trivial, fun _ => ⟨trivial, fun _ => trivial⟩⟩
  exact ⟨enabled, values_verbatim .bare {} () _ rfl rfl rfl (fun x _ => x.elim) enabled introduceGrumpy chatting
    rfl .oidSpace "%2$s"⟩

end Chatline.Behaviour
