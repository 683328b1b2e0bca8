import Chatline.Proofs.Dispatch.Course

namespace Chatline

variable {ξ σ : Type}

-- Guests may change the format and the body of a message that they are notified of, and nothing else
-- about it.
def Behaviour.Editing (behave : Behaviour ξ σ) : Prop :=
  ∀ x e performing h m, e.envelope.topic = Host.chatTopic → e.payload = .ofChat m →
    ∃ format body, ((behave x e).run performing h).1.payload = .ofChat { m with format, body }

namespace Host

def message (b : BusId) (player : Player) (body : String) : Emission :=
  { bus := b, topic := chatTopic, source := chatSource, payload := .ofChat (.new player body) }

abbrev Passage (ξ σ : Type) := ChatMessage × Host ξ σ

variable (guests : Guests ξ σ) (b : BusId) (e : Envelope)

def passA (id : PluginId) (s : Subscription (Observer ξ)) (x : Passage ξ σ) : Passage ξ σ :=
  let h := x.2.note (.delivered b e s.serial)
  ({ x.1 with format := (h.plugin id).template.text }, h)

def edit (x : Passage ξ σ) (s : Subscription (Observer ξ)) : Passage ξ σ :=
  match s.observer with
  | .guest y =>
    let (r, h) := guests y { envelope := e, payload := .ofChat x.1 } (x.2.note (.delivered b e s.serial))
    (r.payload.message.getD x.1, h.noteFailure b e r.failure)
  | _        => x

-- The second pass: what is left in the format is resolved from the providers that are bound at this moment.
-- If that fails, the format stays as it is.
def passB (id : PluginId) (s : Subscription (Observer ξ)) (x : Passage ξ σ) : Passage ξ σ :=
  let h := x.2.note (.delivered b e s.serial)
  let inquiry := ((h.plugin id).bindings.context h.provider x.1).resolve x.1.format
  let h := { h with asked := h.asked ++ inquiry.asked }
  match inquiry.outcome with
  | .error f   => (x.1, h.note (.handlerFailed b e f.message))
  | .ok format => ({ x.1 with format }, h)

variable {guests b e} {id : PluginId} {h : Host ξ σ} {m : ChatMessage} {s : Subscription (Observer ξ)}
  {ss : List (Subscription (Observer ξ))}

theorem deliver_installer (hs : s.observer = .installer id) :
    deliver guests b e (s :: ss) (.ofChat m) h =
      deliver guests b e ss (.ofChat (passA b e id s (m, h)).1) (passA b e id s (m, h)).2 := by
  have hr : (h.turn guests b e s (.ofChat m)).reaction =
      { payload := .ofChat (passA b e id s (m, h)).1, failure := none } := by
    simp only [turn, react, hs, install, Payload.chat_ofChat]
    rfl
  have ha : (h.turn guests b e s (.ofChat m)).after = (passA b e id s (m, h)).2 := by
    simp only [turn, react, hs, passA]
  rw [deliver_cons, hr, ha]
  rfl

theorem format_eq (bindings : Bindings) (providers : ProviderId → Provider) (m : ChatMessage) :
    bindings.format providers m =
      ⟨((bindings.context providers m).resolve m.format).asked,
        ((bindings.context providers m).resolve m.format).outcome.map fun format => { m with format }⟩ := by
  simp only [Bindings.format]
  cases ho : ((bindings.context providers m).resolve m.format).outcome with
  | error f   => rw [Inquiry.bind_error ho, Except.map]
  | ok format => rw [Inquiry.bind_ok ho, Inquiry.pure_def, List.append_nil, Except.map]

theorem deliver_resolver (hs : s.observer = .resolver id) :
    deliver guests b e (s :: ss) (.ofChat m) h =
      deliver guests b e ss (.ofChat (passB b e id s (m, h)).1) (passB b e id s (m, h)).2 := by
  rw [deliver_cons]
  simp only [turn, react, hs, resolve, Payload.chat_ofChat, passB, format_eq]
  cases (((h.note (.delivered b e s.serial)).plugin id).bindings.context
      (h.note (.delivered b e s.serial)).provider m).resolve m.format with
  | mk asked outcome => cases outcome <;> rfl

theorem passB_of_ok {x : Passage ξ σ} {format : String}
    (hr : (((x.2.plugin id).bindings.context x.2.provider x.1).resolve x.1.format).outcome = .ok format) :
    (passB b e id s x).1 = { x.1 with format } := by
  have hr : ((((x.2.note (.delivered b e s.serial)).plugin id).bindings.context
    (x.2.note (.delivered b e s.serial)).provider x.1).resolve x.1.format).outcome = .ok format := hr
  simp only [passB]
  rw [hr]

def Editors (guests : Guests ξ σ) (e : Envelope) (ss : List (Subscription (Observer ξ))) : Prop :=
  ∀ s ∈ ss, ∃ x, s.observer = .guest x ∧
    ∀ m h, ∃ m', (guests x { envelope := e, payload := .ofChat m } h).1.payload = .ofChat m'

theorem deliver_editors (hs : Editors guests e ss) (rest : List (Subscription (Observer ξ))) :
    deliver guests b e (ss ++ rest) (.ofChat m) h =
      deliver guests b e rest (.ofChat (ss.foldl (edit guests b e) (m, h)).1)
        (ss.foldl (edit guests b e) (m, h)).2 := by
  induction ss generalizing m h with
  | nil => rfl
  | cons s ss ih =>
    have ⟨x, hx, edits⟩ := hs s (.head _)
    have ⟨m', hm⟩ := edits m (h.note (.delivered b e s.serial))
    have edited : (edit guests b e (m, h) s).1 = m' := by
      simp only [edit, hx, hm]
      rfl
    have payload : (h.turn guests b e s (.ofChat m)).reaction.payload = .ofChat (edit guests b e (m, h) s).1 := by
      rw [edited, ← hm, turn, hx]
      rfl
    have host : (h.turn guests b e s (.ofChat m)).after.noteFailure b e
        (h.turn guests b e s (.ofChat m)).reaction.failure = (edit guests b e (m, h) s).2 := by
      simp only [edit, turn, hx]
      rfl
    rw [List.cons_append, deliver_cons, payload, host, List.foldl_cons]
    exact ih fun s hm => hs s (.tail _ hm)

-- A message passes a plugin, then the guests in between, each on what the one before has left, and then
-- the plugin again.
theorem publish_eq {player : Player} {body : String} {sA sB : Subscription (Observer ξ)}
    (hl : (h.bus b).live chatTopic = sA :: (ss ++ [sB])) (hA : sA.observer = .installer id)
    (hB : sB.observer = .resolver id) (he : e = (message b player body).envelope h)
    (hs : Editors guests e ss) :
    h.publish guests b player body =
      passB b e id sB
        (ss.foldl (edit guests b e)
          (passA b e id sA (.new player body, (message b player body).numbered h))) := by
  have hd : h.emit guests b chatTopic chatSource (.ofChat (.new player body)) =
      ((e, (deliver guests b e ((h.bus b).live chatTopic) (.ofChat (.new player body))
        ((message b player body).numbered h)).1),
       (deliver guests b e ((h.bus b).live chatTopic) (.ofChat (.new player body))
        ((message b player body).numbered h)).2) := by
    rw [he]
    rfl
  simp only [publish]
  rw [hd, hl, deliver_installer hA, deliver_editors hs, deliver_resolver hB]
  rfl

end Host

theorem Behaviour.Editing.editors {behave : Behaviour ξ σ} (editing : behave.Editing) {e : Envelope}
    (he : e.topic = Host.chatTopic) {ss : List (Subscription (Observer ξ))}
    (hs : ∀ s ∈ ss, ∃ x, s.observer = .guest x) (depth : Nat) : Host.Editors (behave.guests depth) e ss := by
  intro s hm
  have ⟨x, hx⟩ := hs s hm
  refine ⟨x, hx, fun m h => ?_⟩
  have ⟨format, body, hp⟩ :=
    editing x { envelope := e, payload := .ofChat m } (Host.perform behave depth) h m he rfl
  exact ⟨_, hp⟩

end Chatline
