import Chatline.Proofs.Lifecycle.Formats
import Chatline.Proofs.Passing.Twins

namespace Chatline

variable {ξ σ α β : Type}

namespace Host

-- How a message passes a plugin, then the guests in between, by priority and as they have come, and then the
-- plugin again.
def Passes (behave : Behaviour ξ σ) (n : Nat) (id : PluginId) (b : BusId) (xs : List (Priority × ξ))
    (player : Player) (body : String) (h : Host ξ σ) : Prop :=
  ∃ sA ss sB, (h.bus b).live chatTopic = sA :: (ss ++ [sB]) ∧
    sA.role = (.lowest, .installer id) ∧ ss.map (·.role) = lineup xs ∧ sB.role = (.highest, .resolver id) ∧
    let e := (message b player body).envelope h
    let begun := passA b e id sA (.new player body, (message b player body).numbered h)
    let edited := ss.foldl (edit (behave.guests n) b e) begun
    let ended := passB b e id sB edited
    perform behave (n + 1) (.publish b player body) h = (.ok ended.1, ended.2)

variable {h : Host ξ σ} {id : PluginId} {settings : Option Settings} {b : BusId} {xs ys : List (Priority × ξ)}
  {behave : Behaviour ξ σ} {n : Nat}

theorem Staffed.passes (hs : Staffed b id xs h) (editing : behave.Editing) (player : Player) (body : String) :
    h.Passes behave n id b xs player body := by
  have ⟨sA, ss, sB, hl, hA, hg, hB⟩ := hs.live
  have guests : ∀ s ∈ ss, ∃ x, s.observer = .guest x := by
    intro s hm
    have hr : s.role ∈ lineup xs := hg ▸ List.mem_map_of_mem hm
    exact guest_of_mem_lineup hr
  have editors := editing.editors (e := (message b player body).envelope h) rfl guests n
  have hp := publish_eq hl (congrArg Prod.snd hA) (congrArg Prod.snd hB) rfl editors
  refine ⟨sA, ss, sB, hl, hA, hg, hB, ?_⟩
  dsimp only
  rw [← hp]
  rfl

theorem Beside.enrol (h : Host ξ σ) (b : BusId) (xs : List (Priority × ξ)) : Beside h (h.enrol b xs) := by
  induction xs generalizing h with
  | nil          => exact .refl
  | cons x xs ih => exact .trans (.subscribe b chatTopic x.1 (.guest x.2)) (ih _)

theorem Trail.session : Trail (h.enrol b xs) (behave.steps (n + 1) (.enable id settings) (h.enrol b xs))
    (session behave n id settings b h xs ys) := by
  have enabled : Trail (h.enrol b xs) ([] ++ behave.steps (n + 1) (.enable id settings) (h.enrol b xs)) _ :=
    Trail.refl.perform (n + 1) (.enable id settings)
  exact enabled.beside (.enrol _ b ys)

end Host

namespace Behaviour

variable {behave : Behaviour ξ σ} {L : PluginId → Prop} {id : PluginId} {settings : Option Settings} {b : BusId}
  {n m : Nat} {h h' k k' : Host ξ σ} {a a' : Act ξ}

theorem Course.unattached (mild : ∀ x e, (behave x e).Keeps (Act.Mild L)) (hc : Course behave n a h m a' h')
    (ha : ∀ path saves b d, a ≠ .attach path saves b d) : ∀ path saves b d, a' ≠ .attach path saves b d := by
  cases hc with
  | refl => exact ha
  | nest _ _ hm hc =>
    intro path saves b d he
    have gentle := hc.mild mild ((mild _ _).acts hm)
    exact (he ▸ gentle : (Act.attach path saves b d : Act ξ).Mild L)

theorem template_last {xs ys : List (Priority × ξ)} (mild : ∀ x e, (behave x e).Keeps (Act.Mild L))
    (enabled : (Host.perform behave (n + 1) (.enable id settings) (h.enrol b xs)).1 = .ok ())
    {p : Program ξ σ α} (welcoming : p.Keeps (Act.Welcoming L b)) {earlier later : List (Act ξ × Host ξ σ)}
    (split : p.acts (Host.perform behave (n + 1)) (Host.session behave n id settings b h xs ys) =
      earlier ++ (a, h') :: later) :
    ∃ format, (behave.formats id (n + 1) ((.enable id settings, h.enrol b xs) :: earlier)).getLast? = some format ∧
      (h'.plugin id).template = .compile format := by
  let acts : List (Act ξ × Host ξ σ) := (.enable id settings, h.enrol b xs) :: earlier
  have trail : Host.Trail (h.enrol b xs) (behave.stepsOf (n + 1) acts) h' :=
    Program.acts_tell (P := Host.Trail (h.enrol b xs)) split (fun _ _ _ ht => ht.beside .memory)
      (fun a _ _ _ ht => ht.perform (n + 1) a) .session
  -- A plugin that is newly attached could get this name, with a template of its own. Nobody attaches any.
  have unattached : ∀ a k, ⟨some a, k⟩ ∈ behave.stepsOf (n + 1) acts → ∀ path saves b d, a ≠ .attach path saves b d := by
    intro a k hm
    obtain ⟨_, acted, told⟩ := List.mem_flatMap.mp hm
    obtain ⟨_, course⟩ := mem_steps told
    refine course.unattached mild ?_
    cases List.mem_cons.mp acted with
    | inl enabling =>
      cases enabling
      rintro _ _ _ _ ⟨⟩
    | inr acted    =>
      have welcome := welcoming.acts (split ▸ List.mem_append_left _ acted)
      intro path saves b' d he
      exact (he ▸ welcome : (Act.attach path saves b' d : Act ξ).Welcoming L b)
  have template := trail.template id unattached
  obtain ⟨s, intended⟩ := Host.intended_of_enabled enabled
  have first : (Act.enable id settings : Act ξ).format? id (h.enrol b xs) = some s.format := by
    simp [Act.format?, intended, Except.toOption]
  have some : behave.formats id (n + 1) acts ≠ [] := by simp [formats, stepsOf, acts, steps, Juncture.format?, first]
  obtain ⟨format, last⟩ := Option.ne_none_iff_exists'.mp (mt List.getLast?_eq_none_iff.mp some)
  refine ⟨format, last, ?_⟩
  rw [formats] at last
  rw [template, last]
  rfl

-- The pipeline of a plugin. Every message passes first the plugin, which puts the format in force on it,
-- then the guests in their order, and then the plugin again, which resolves what is left in the format.
-- Guests may change the format, which is then the current one when the next message comes. Whether they
-- have subscribed before or after the plugin was put to work makes no difference to anyone who does not
-- look at serial numbers and logs.
theorem messages_pass {behave : Behaviour ξ σ} {id : PluginId} {settings : Option Settings} {b : BusId}
    {n l : Nat} {xs ys zs : List (Priority × ξ)} {h : Host ξ σ} (files : FileTree) (environment : Environment)
    (memory : σ) (before : Program ξ σ β)
    (reached : (before.run (Host.perform behave l) (.new files environment memory)).2 = h)
    (bus : (h.plugin id).bus = b) (present : (h.bus b).roles Host.chatTopic = lineup zs)
    (between : ∀ x ∈ xs ++ ys, x.1.Between) (editing : behave.Editing)
    (mild : ∀ x e, (behave x e).Keeps (Act.Mild (· = id)))
    (enabled : (Host.perform behave (n + 1) (.enable id settings) (h.enrol b xs)).1 = .ok ())
    (p : Program ξ σ α) (welcoming : p.Keeps (Act.Welcoming (· = id) b)) :
    (∀ earlier player body h' later,
      p.acts (Host.perform behave (n + 1)) (Host.session behave n id settings b h xs ys) =
        earlier ++ (.publish b player body, h') :: later →
      h'.Passes behave n id b (zs ++ (xs ++ ys) ++ newcomers b earlier) player body ∧
        ∃ format, (behave.formats id (n + 1) ((.enable id settings, h.enrol b xs) :: earlier)).getLast? = some format ∧
          (h'.plugin id).template = .compile format) ∧
    ((∀ x e, (behave x e).Overlooks (Host.Alike (besideChat b))) → p.Overlooks (Host.Alike fun _ _ => True) →
      ∀ xs' ys', xs' ++ ys' = xs ++ ys →
        (Host.perform behave (n + 1) (.enable id settings) (h.enrol b xs')).1 = .ok () ∧
        (p.run (Host.perform behave (n + 1)) (Host.session behave n id settings b h xs' ys')).1 =
          (p.run (Host.perform behave (n + 1)) (Host.session behave n id settings b h xs ys)).1) := by
  have sound : h.Sound := reached ▸ .run before l files environment memory
  have staffed := sound.sorted.staffed_session present bus between mild enabled
  constructor
  case left =>
    intro earlier player body h' later split
    exact ⟨(staffed.acts mild welcoming split).passes editing player body, template_last mild enabled welcoming split⟩
  case right =>
    intro overlooks overlooked xs' ys' same
    have ⟨enabled', alike⟩ := sound.sorted.alike_session present bus between same mild overlooks enabled
    -- The two orders leave the same number of subscriptions behind, so those that come later are told apart alike.
    have twins : Host.Twins (Host.session behave n id settings b h xs ys)
        (Host.session behave n id settings b h xs' ys') := by
      have staffed' := sound.sorted.staffed_session present bus (same ▸ between) mild enabled'
      refine ⟨alike, ⟨staffed.sorted, staffed'.sorted⟩, fun c => ?_⟩
      rw [Host.subscribed_session bus mild enabled, Host.subscribed_session bus mild enabled', same]
    have agree : _ ∧
        Host.Twins (p.run (Host.perform behave (n + 1)) _).2 (p.run (Host.perform behave (n + 1)) _).2 :=
      p.run_agree welcoming overlooked (fun _ _ ht => ht.alike) (fun _ _ m ht => ht.memory m)
        (fun _ _ _ welcoming ht => ht.perform mild overlooks welcoming) twins
    exact ⟨enabled', agree.left.symm⟩

def meddle : Behaviour Bool Unit := fun x e => do
  match e.payload.chat with
  | .error f => return { payload := e.payload, failure := some f }
  | .ok m    =>
    if x then
      let _ ← Program.perform (.reload ⟨2⟩ (some "{message}"))
      return { payload := .ofChat { m with format := m.format ++ "!" }, failure := none }
    else return { payload := .ofChat { m with body := m.body ++ "?" }, failure := some (.raised "meddled") }

def attachOne : Program Bool Unit Unit := do
  let _ ← Program.perform (.attach none false none none)

def sendTwo : Program Bool Unit (List String) := do
  let first ← Program.perform (.publish ⟨0⟩ (.offline "Ann" none) "one")
  let second ← Program.perform (.publish ⟨0⟩ (.offline "Ann" none) "two")
  return [first, second].map fun r => r.toOption.elim "" ChatMessage.render

def played : Host Bool Unit :=
  (attachOne.run (Host.perform meddle 2) (.new .bare {} ())).2

theorem meddle_editing : meddle.Editing := by
  intro x e performing h m _ hm
  simp only [meddle]
  rw [hm, Payload.chat_ofChat]
  cases x <;> exact ⟨_, _, rfl⟩

theorem meddle_mild (x : Bool) (e : Event) : (meddle x e).Keeps (Act.Mild (· = ⟨2⟩)) := by
  simp only [meddle]
  split
  case h_1 => trivial
  case h_2 => cases x <;> simp [Program.Keeps, Act.Mild, Program.perform, bind, Program.bind, pure]

theorem meddle_overlooks (R : Host Bool Unit → Host Bool Unit → Prop) (x : Bool) (e : Event) :
    (meddle x e).Overlooks R := by
  simp only [meddle]
  split
  case h_1 => trivial
  case h_2 => cases x <;> simp [Program.Overlooks, Program.perform, bind, Program.bind, pure]

theorem messages_pass_meddled :
    let guests := [(Priority.low, true), (Priority.high, false)]
    let split := Host.session meddle 1 ⟨2⟩ (some .default) ⟨0⟩ played [(.low, true)] [(.high, false)]
    let after := Host.session meddle 1 ⟨2⟩ (some .default) ⟨0⟩ played [] guests
    (∃ h' : Host Bool Unit, h'.Passes meddle 1 ⟨2⟩ ⟨0⟩ guests (.offline "Ann" none) "two" ∧
      (h'.plugin ⟨2⟩).template = .compile (some "{message}")) ∧
      (sendTwo.run (Host.perform meddle 2) after).1 = (sendTwo.run (Host.perform meddle 2) split).1 := by
  have present : (played.bus ⟨0⟩).roles Host.chatTopic = lineup [] := rfl
  have between : ∀ x ∈ [(Priority.low, true)] ++ [(Priority.high, false)], x.1.Between := by
    simp [Priority.Between]
  have welcoming : sendTwo.Keeps (Act.Welcoming (· = ⟨2⟩) ⟨0⟩) :=
    ⟨trivial, fun _ => ⟨trivial, fun _ => trivial⟩⟩
  have enabled :
      (Host.perform meddle 2 (.enable ⟨2⟩ (some .default)) (played.enrol ⟨0⟩ [(.low, true)])).1 = .ok () := rfl
  have passes := messages_pass .bare {} () attachOne rfl rfl present between meddle_editing meddle_mild enabled
    sendTwo welcoming (l := 2)
  constructor
  case left =>
    let split := Host.session meddle 1 ⟨2⟩ (some .default) ⟨0⟩ played [(.low, true)] [(.high, false)]
    let acts : List (Act Bool × Host Bool Unit) :=
      [(.enable ⟨2⟩ (some .default), played.enrol ⟨0⟩ [(.low, true)]),
       (.publish ⟨0⟩ (.offline "Ann" none) "one", split)]
    have given : (meddle.formats ⟨2⟩ 2 acts).getLast? = some (some "{message}") := by decide +kernel
    have told := passes.left [(.publish ⟨0⟩ (.offline "Ann" none) "one", split)] (.offline "Ann" none) "two" _ [] rfl
    obtain ⟨format, last, template⟩ := told.right
    have same : some (some "{message}") = some format := given.symm.trans last
    cases same
    exact ⟨_, told.left, template⟩
  case right => exact (passes.right (meddle_overlooks _) (fun _ _ => trivial) [] _ rfl).right

end Behaviour
end Chatline
