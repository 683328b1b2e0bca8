import Chatline.Proofs.Format.Filled
import Chatline.Proofs.Passing.Session

namespace Chatline

variable {ξ σ α β : Type}

namespace Host

variable {h h' : Host ξ σ} {id : PluginId} {b : BusId} {behave : Behaviour ξ σ} {n : Nat}
  {settings : Option Settings} {ps : List Piece} {player : Player} {body : String}

theorem Staffed.render (hs : Staffed b id [] h)
    (ht : (h.plugin id).template = .compile (some (.ofList (Piece.join ps))))
    (literal : Piece.Literal ps) (apart : Piece.Apart ps)
    (oblige : (h.plugin id).bindings.Oblige h.provider player.identity) (name : '%' ∉ player.name.toList) :
    ∃ m h', Host.perform behave (n + 1) (.publish b player body) h = (.ok m, h') ∧
      m.render = .ofList (ps.flatMap
        (Piece.shown ((h.plugin id).bindings.shown h.provider (.new player body)))) := by
  have ⟨sA, ss, sB, hl, hA, hg, hB⟩ := hs.live
  have none : ss = [] := List.map_eq_nil_iff.mp hg
  subst none
  have editors : Editors (behave.guests n) ((message b player body).envelope h) [] := fun _ hm => nomatch hm
  have hp := publish_eq hl (congrArg Prod.snd hA) (congrArg Prod.snd hB) rfl editors
  have ⟨format, resolved, line⟩ := Bindings.render_resolved (m := .new player body) literal apart oblige name
  have resolving : (((h.plugin id).bindings.context h.provider (.new player body)).resolve
      (h.plugin id).template.text).outcome = .ok format := by rw [ht, resolved]
  have passed :
      (h.publish (behave.guests n) b player body).1 = { ChatMessage.new player body with format } := by
    rw [hp]
    exact passB_of_ok resolving
  exact ⟨(h.publish (behave.guests n) b player body).1, _, rfl, by rw [passed, line]⟩

end Host

namespace Behaviour

-- The meaning of a format. Once a plugin has been put to work with it, and if nobody else observes the
-- messages, every message comes out as what the pieces of the format show, one after the other, from the
-- providers that are bound at that moment.
theorem pieces_shown {behave : Behaviour ξ σ} {id : PluginId} {settings : Option Settings} {b : BusId}
    {n l : Nat} {h : Host ξ σ} (files : FileTree) (environment : Environment) (memory : σ)
    (before : Program ξ σ β)
    (reached : (before.run (Host.perform behave l) (.new files environment memory)).2 = h)
    (bus : (h.plugin id).bus = b) (vacant : (h.bus b).live Host.chatTopic = [])
    (mild : ∀ x e, (behave x e).Keeps (Act.Mild fun _ => False))
    (enabled : (Host.perform behave (n + 1) (.enable id settings) h).1 = .ok ())
    {s : Settings} (chosen : ((h.provideDefault id).2.chosen id settings).1 = .ok s)
    {ps : List Piece} (literal : Piece.Literal ps) (apart : Piece.Apart ps)
    (format : s.format.getD Template.defaultFormat = .ofList (Piece.join ps))
    (p : Program ξ σ α) (chatting : p.Keeps (Act.Chatting fun _ => False)) {player : Player} {body : String}
    {h' : Host ξ σ} (published : (.publish b player body, h') ∈
      p.acts (Host.perform behave (n + 1)) (Host.perform behave (n + 1) (.enable id settings) h).2)
    (oblige : (h'.plugin id).bindings.Oblige h'.provider player.identity) (name : '%' ∉ player.name.toList) :
    ∃ m h'', Host.perform behave (n + 1) (.publish b player body) h' = (.ok m, h'') ∧
      m.render = .ofList (ps.flatMap
        (Piece.shown ((h'.plugin id).bindings.shown h'.provider (.new player body)))) := by
  have sound : h.Sound := reached ▸ .run before l files environment memory
  have ⟨k, ready, listening⟩ := Host.ready_of_enabled enabled
  have template : ((k.listen id).plugin id).template = .compile (some (.ofList (Piece.join ps))) := by
    have ready := ready.template mild not_false chosen
    rw [Host.template_listen, ready, ← format]
    cases s.format <;> rfl
  have staffed : Host.Staffed b id [] (k.listen id) := by
    have quiet : ∀ x e, (behave x e).Keeps (Act.Mild (· = id)) :=
      fun x e => (mild x e).mono fun _ ha => ha.mono fun _ hf => hf.elim
    have nobody : ∀ x ∈ ([] ++ [] : List (Priority × ξ)), x.1.Between := fun _ hm => nomatch hm
    have present : (h.bus b).roles Host.chatTopic = lineup [] := congrArg (List.map _) vacant
    have hs : Host.Staffed b id [] (Host.perform behave (n + 1) (.enable id settings) h).2 :=
      sound.sorted.staffed_session present bus nobody quiet enabled
    rwa [listening] at hs
  let P (k' : Host ξ σ) : Prop :=
    k'.Staffed b id [] ∧ (k'.plugin id).template = .compile (some (.ofList (Piece.join ps)))
  have kept : P h' := by
    rw [listening] at published
    refine (p.run_preserves (P := P) ?_ ?_ ⟨staffed, template⟩).right _ _ published
    case refine_1 => exact fun _ _ hP => ⟨⟨hP.left.sorted, hP.left.roles⟩, hP.right⟩
    case refine_2 =>
      intro a k' hm hP
      have ho : Host.Ongoing (fun _ => False) id k' (Host.perform behave (n + 1) a k').2 :=
        ongoing_perform mild (n + 1) (chatting.acts hm)
      exact ⟨hP.left.ongoing ho, (ho.template not_false).trans hP.right⟩
  exact kept.left.render kept.right literal apart oblige name

def idle : Behaviour Empty Unit := fun x => x.elim

def unattended : Host Empty Unit :=
  ((Program.perform (.attach none false none none)).run (Host.perform idle 1) (.new .bare {} ())).2

def greeting : List Piece :=
  [.hole .prefixText, .text ['&', 'b'], .hole .name, .text [':', ' '], .hole .message]

def greeted : Settings :=
  { Settings.default with format := some (.ofList (Piece.join greeting)) }

def attended : Host Empty Unit :=
  (Host.perform idle 2 (.enable ⟨2⟩ (some greeted)) unattended).2

def star : Provider :=
  .chatMeta "star" (fun _ => .ok (some "&a*")) fun _ => .ok none

def introduceStar : Program Empty Unit Unit := do
  let _ ← Program.perform (.introduce star)
  let _ ← Program.perform (.register ⟨1⟩ .chatMeta ⟨3⟩)

def greet : Program Empty Unit Unit := do
  introduceStar
  let _ ← Program.perform (.publish ⟨0⟩ (.offline "Ann" none) "\x7bname\x7d %1$s")

theorem pieces_shown_greeting :
    let h := (introduceStar.run (Host.perform idle 2) attended).2
    let bindings : Bindings := { chatMeta := some ⟨3⟩ }
    (h.plugin ⟨2⟩).bindings = bindings ∧
      ∃ m h', Host.perform idle 2 (.publish ⟨0⟩ (.offline "Ann" none) "\x7bname\x7d %1$s") h = (.ok m, h') ∧
        m.render = .ofList (greeting.flatMap
          (Piece.shown (bindings.shown h.provider (.new (.offline "Ann" none) "\x7bname\x7d %1$s")))) := by
  have literal : Piece.Literal greeting := by
    simp [Piece.Literal, greeting, Inert, Placeholder.opening]
  have chatting : greet.Keeps (Act.Chatting fun _ => False) :=
    ⟨trivial, fun _ => ⟨trivial, fun _ => ⟨trivial, fun _ => trivial⟩⟩⟩
  have oblige : Bindings.Oblige { chatMeta := some ⟨3⟩ }
      (introduceStar.run (Host.perform idle 2) attended).2.provider (Player.offline "Ann" none).identity := by
    refine ⟨fun q hq => ?_, fun _ hq => (nomatch hq), fun _ hq => (nomatch hq)⟩
    cases hq
    exact ⟨⟨some "&a*", rfl, by simp [Inert, Placeholder.opening]⟩, ⟨none, rfl, nofun⟩⟩
  have enabled : (Host.perform idle 2 (.enable ⟨2⟩ (some greeted)) unattended).1 = .ok () := rfl
  have shown := pieces_shown .bare {} () _ rfl rfl rfl (fun x _ => x.elim) enabled rfl literal trivial rfl
    greet chatting (.tail _ (.tail _ (.head _)))
  exact ⟨rfl, shown oblige (by decide)⟩

end Behaviour
end Chatline
