import Chatline.Proofs.Format.Settled
import Chatline.Proofs.Passing.Session

namespace Chatline

variable {ξ σ α β : Type}

namespace Host

variable {guests : Guests ξ σ} {b : BusId} {e : Envelope} {id : PluginId} {h h' : Host ξ σ}
  {s : Subscription (Observer ξ)} {behave : Behaviour ξ σ} {n : Nat} {settings : Option Settings}

theorem passB_fst (x : Passage ξ σ) : (passB b e id s x).1 =
    { x.1 with
      format := (x.2.plugin id).bindings.settled x.2.provider x.1.player.identity x.1.player.name x.1.format } := by
  have same : ((x.2.note (.delivered b e s.serial)).plugin id).bindings.context
      (x.2.note (.delivered b e s.serial)).provider x.1 =
        (x.2.plugin id).bindings.context x.2.provider x.1 := rfl
  simp only [passB, Bindings.settled]
  rw [same, Bindings.resolve_context]
  cases ((x.2.plugin id).bindings.settling x.2.provider x.1.player.identity x.1.player.name
    x.1.format).outcome <;> rfl

theorem passB_snd_congr {m m' : ChatMessage} (identity : m.player.identity = m'.player.identity)
    (name : m.player.name = m'.player.name) (format : m.format = m'.format) :
    (passB b e id s (m, h)).2 = (passB b e id s (m', h)).2 := by
  simp only [passB, Bindings.resolve_context, identity, name, format]
  split <;> rfl

theorem perform_publish (player : Player) (body : String) :
    perform behave (n + 1) (.publish b player body) h =
      (.ok (h.publish (behave.guests n) b player body).1, (h.publish (behave.guests n) b player body).2) :=
  rfl

-- A message that nobody but a plugin sees. The host does not come to know what it says, nor under which name
-- its sender is shown.
theorem Staffed.publish_alone (hs : Staffed b id [] h) (identity : Identity) (name : String) :
    ∃ h', ∀ guests displayName body, h.publish guests b { identity, name, displayName } body =
      ({ ChatMessage.new { identity, name, displayName } body with
          format := (h.plugin id).bindings.settled h.provider identity name (h.plugin id).template.text },
        h') := by
  have ⟨sA, ss, sB, hl, hA, hg, hB⟩ := hs.live
  have none : ss = [] := List.map_eq_nil_iff.mp hg
  subst none
  let em : Emission := message b { identity, name, displayName := none } ""
  let m : ChatMessage := ChatMessage.new { identity, name, displayName := none } ""
  refine ⟨(passB b (em.envelope h) id sB (passA b (em.envelope h) id sA (m, em.numbered h))).2, ?_⟩
  intro guests displayName body
  have editors : Editors guests ((message b { identity, name, displayName } body).envelope h) [] :=
    fun _ hm => nomatch hm
  rw [publish_eq hl (congrArg Prod.snd hA) (congrArg Prod.snd hB) rfl editors]
  apply Prod.ext
  case fst => exact passB_fst _
  case snd => exact passB_snd_congr rfl rfl rfl

theorem staffed_of_vacant (hs : h.Sorted) (bus : (h.plugin id).bus = b)
    (vacant : (h.bus b).live chatTopic = []) (mild : ∀ x e, (behave x e).Keeps (Act.Mild (· = id)))
    (enabled : (perform behave (n + 1) (.enable id settings) h).1 = .ok ()) :
    Staffed b id [] (perform behave (n + 1) (.enable id settings) h).2 := by
  have nobody : ∀ x ∈ ([] ++ [] : List (Priority × ξ)), x.1.Between := fun _ hm => nomatch hm
  have present : (h.bus b).roles chatTopic = lineup [] := congrArg (List.map _) vacant
  exact hs.staffed_session present bus nobody mild enabled

theorem template_of_enabled (mild : ∀ x e, (behave x e).Keeps (Act.Mild fun _ => False))
    (enabled : (perform behave (n + 1) (.enable id settings) h).1 = .ok ()) {s : Settings}
    (chosen : ((h.provideDefault id).2.chosen id settings).1 = .ok s) :
    ((perform behave (n + 1) (.enable id settings) h).2.plugin id).template = .compile s.format := by
  have ⟨k, ready, listening⟩ := ready_of_enabled enabled
  rw [listening, template_listen, ready.template mild not_false chosen]

end Host

theorem Behaviour.ongoing_run {L : PluginId → Prop} {behave : Behaviour ξ σ} {id : PluginId} {h : Host ξ σ} {n : Nat}
    (mild : ∀ x e, (behave x e).Keeps (Act.Mild L)) {p : Program ξ σ α} (chatting : p.Keeps (Act.Chatting L)) :
    Host.Ongoing L id h (p.run (Host.perform behave (n + 1)) h).2 := by
  refine (p.run_preserves (P := Host.Ongoing L id h) ?_ ?_ .refl).left
  case refine_1 => exact fun _ _ ho => ho.trans (.silent rfl rfl)
  case refine_2 => exact fun a _ hm ho => ho.trans (ongoing_perform mild (n + 1) (chatting.acts hm))

end Chatline
