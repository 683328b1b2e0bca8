import Chatline.Proofs.Dispatch.Aside
import Chatline.Proofs.Dispatch.Chronicle

namespace Chatline

-- What is done with the buses of a host: someone may look at them, an event is sent, and someone is subscribed
-- or unsubscribed.
inductive Deed (ξ : Type)
  | look
  | send (em : Emission)
  | on (bus : BusId) (topic : String) (priority : Priority) (observer : Observer ξ)
  | off (id : SubscriptionId)

variable {ξ σ α : Type}

def Deed.carryOut (h : Host ξ σ) : Deed ξ → Host ξ σ
  | look                           => h
  | send em                        => em.numbered h
  | on bus topic priority observer => (h.subscribe bus topic priority observer).2
  | off id                         => h.unsubscribe id

namespace Host

def listening (h : Host ξ σ) (id : PluginId) : List (Deed ξ × Host ξ σ) :=
  let bus := (h.plugin id).bus
  let h₁ := (h.subscribe bus chatTopic .lowest (.installer id)).2
  let h₂ := (h₁.subscribe bus chatTopic .highest (.resolver id)).2
  let h₃ := (h₂.subscribe bus Directory.registered .normal (.rebinder id)).2
  [(.on bus chatTopic .lowest (.installer id), h), (.on bus chatTopic .highest (.resolver id), h₁),
    (.on bus Directory.registered .normal (.rebinder id), h₂),
    (.on bus Directory.unregistered .normal (.rebinder id), h₃)]

def leaving (h : Host ξ σ) : List SubscriptionId → List (Deed ξ × Host ξ σ)
  | []      => []
  | i :: is => (.off i, h) :: (h.unsubscribe i).leaving is

end Host

namespace Act

def begun : Act ξ → Host ξ σ → List (Deed ξ × Host ξ σ)
  | subscribe bus topic priority x, h => [(.on bus topic priority (.guest x), h)]
  | unsubscribe id, h                 => [(.off id, h)]
  | disable id, h                     => h.leaving (h.plugin id).subscriptions
  | a, h                              =>
    match a.opening h with
    | (some em, h) => [(.send em, h)]
    | (none, _)    => []

def ended (guests : Guests ξ σ) (a : Act ξ) (h : Host ξ σ) : List (Deed ξ × Host ξ σ) :=
  match a, a.opening h with
  | enable id _, (some em, h) =>
    match (em.carryOut guests h).2.refresh id with
    | (.error _, _) => []
    | (.ok (), h)   => h.listening id
  | _, _ => []

theorem begun_of_not_enlists {a : Act ξ} {h : Host ξ σ} (ha : ¬a.Enlists) :
    a.begun h = match a.opening h with
      | (some em, h) => [(.send em, h)]
      | (none, _)    => [] := by
  cases a
  case subscribe b topic priority x => exact absurd (.subscribe b topic priority x) ha
  case unsubscribe id => exact absurd (.unsubscribe id) ha
  case disable id => exact absurd (.disable id) ha
  all_goals rfl

theorem not_enlists_of_announced {a : Act ξ} {h h' : Host ξ σ} {em : Emission}
    (he : a.opening h = (some em, h')) : ¬a.Enlists := by
  intro ha
  cases ha <;> cases he

theorem ended_of_silent {guests : Guests ξ σ} {a : Act ξ} {h h' : Host ξ σ} (he : a.opening h = (none, h')) :
    a.ended guests h = [] := by
  simp only [ended, he]

end Act

def Program.annals (performing : (a : Act ξ) → Host ξ σ → Except Failure a.Reply × Host ξ σ)
    (told : Act ξ → Host ξ σ → List (Deed ξ × Host ξ σ)) (p : Program ξ σ α) (h : Host ξ σ) :
    List (Deed ξ × Host ξ σ) :=
  p.tale performing (fun a h => (.look, h) :: told a h) h ++ [(.look, (p.run performing h).2)]

namespace Behaviour

def deeds (behave : Behaviour ξ σ) : Nat → Act ξ → Host ξ σ → List (Deed ξ × Host ξ σ)
  | 0, _, _         => []
  | depth + 1, a, h =>
    a.begun h ++
      ((a.turns (behave.guests depth) h).flatMap fun t =>
        match t.subscription.observer with
        | .guest x => (behave x t.event).annals (Host.perform behave depth) (behave.deeds depth) t.before
        | _        => []) ++
      a.ended (behave.guests depth) h

def annals (behave : Behaviour ξ σ) (depth : Nat) (p : Program ξ σ α) (h : Host ξ σ) : List (Deed ξ × Host ξ σ) :=
  p.annals (Host.perform behave depth) (behave.deeds depth) h

end Behaviour

theorem Program.mem_annals {performing : (a : Act ξ) → Host ξ σ → Except Failure a.Reply × Host ξ σ}
    {told : Act ξ → Host ξ σ → List (Deed ξ × Host ξ σ)} {p : Program ξ σ α} {a : Act ξ} {h h' : Host ξ σ}
    {e : Deed ξ × Host ξ σ} (hm : (a, h') ∈ p.acts performing h) (he : e ∈ (.look, h') :: told a h') :
    e ∈ p.annals performing told h :=
  List.mem_append_left _ (List.mem_flatMap.mpr ⟨_, hm, he⟩)

theorem Behaviour.Course.mem_deeds {behave : Behaviour ξ σ} {n m : Nat} {a a' : Act ξ} {h h' : Host ξ σ}
    {e : Deed ξ × Host ξ σ} (hc : Course behave n a h m a' h') (he : e ∈ (.look, h') :: behave.deeds m a' h') :
    e ∈ (.look, h) :: behave.deeds n a h := by
  induction hc with
  | refl => exact he
  | @nest n a h t x _ _ _ _ _ ht hx hm _ ih =>
    have share : e ∈ (behave x t.event).annals (Host.perform behave n) (behave.deeds n) t.before :=
      Program.mem_annals hm (ih he)
    refine .tail _ (List.mem_append_left _ (List.mem_append_right _ (List.mem_flatMap.mpr ⟨t, ht, ?_⟩)))
    simpa only [hx] using share

theorem Behaviour.mem_annals {behave : Behaviour ξ σ} {p : Program ξ σ α} {n m : Nat} {a₀ a : Act ξ}
    {h h₀ h' : Host ξ σ} {e : Deed ξ × Host ξ σ} (act : (a₀, h₀) ∈ p.acts (Host.perform behave n) h)
    (course : Course behave n a₀ h₀ m a h') (he : e ∈ (.look, h') :: behave.deeds m a h') :
    e ∈ behave.annals n p h :=
  Program.mem_annals act (course.mem_deeds he)

namespace Host

-- Deeds that have led from one host to another. Whatever else has happened has left the buses alone.
inductive Timeline (h₀ : Host ξ σ) : List (Deed ξ × Host ξ σ) → Host ξ σ → Prop
  | refl : Timeline h₀ [] h₀
  | beside {ds h h'} : Timeline h₀ ds h → h'.buses = h.buses → Timeline h₀ ds h'
  | deed {ds h} (d : Deed ξ) : Timeline h₀ ds h → Timeline h₀ (ds ++ [(d, h)]) (d.carryOut h)

namespace Timeline

variable {h₀ h h' : Host ξ σ} {ds : List (Deed ξ × Host ξ σ)} {guests : Guests ξ σ}

theorem before_deed {earlier later : List (Deed ξ × Host ξ σ)} {d : Deed ξ} {k : Host ξ σ}
    (hl : Timeline h₀ ds h) (split : ds = earlier ++ (d, k) :: later) : Timeline h₀ earlier k := by
  induction hl generalizing later with
  | refl => simp at split
  | beside _ _ ih => exact ih split
  | deed d' hl ih =>
    cases split_last split with
    | inl last   =>
      cases last.right
      exact last.left ▸ hl
    | inr before => exact ih before.choose_spec

theorem listen (hl : Timeline h₀ ds h) (id : PluginId) : Timeline h₀ (ds ++ h.listening id) (h.listen id) := by
  have h₁ := hl.deed (.on (h.plugin id).bus chatTopic .lowest (.installer id))
  have h₂ := h₁.deed (.on (h.plugin id).bus chatTopic .highest (.resolver id))
  have h₃ := h₂.deed (.on (h.plugin id).bus Directory.registered .normal (.rebinder id))
  have h₄ := h₃.deed (.on (h.plugin id).bus Directory.unregistered .normal (.rebinder id))
  simp only [List.append_assoc, List.singleton_append] at h₄
  exact h₄.beside rfl

theorem leave (hl : Timeline h₀ ds h) (is : List SubscriptionId) :
    Timeline h₀ (ds ++ h.leaving is) (is.foldl unsubscribe h) := by
  induction is generalizing ds h with
  | nil          => simpa only [leaving, List.append_nil, List.foldl_nil] using hl
  | cons i is ih =>
    have rest := ih (hl.deed (.off i))
    rwa [List.append_assoc] at rest

theorem silent (hl : Timeline h₀ ds h) (ha : Aside h h') {ds' : List (Deed ξ × Host ξ σ)} (none : ds' = []) :
    Timeline h₀ (ds ++ ds') h' := by
  rw [none, List.append_nil]
  exact hl.beside ha.buses

theorem opened (hl : Timeline h₀ ds h) {a : Act ξ} (he : a.opening h = (none, h')) :
    Timeline h₀ (ds ++ a.begun h) h' := by
  by_cases ha : a.Enlists
  case pos =>
    cases ha <;> cases he
    case subscribe b topic priority x => exact hl.deed (.on b topic priority (.guest x))
    case unsubscribe id => exact hl.deed (.off id)
    case disable id => exact (hl.leave (h.plugin id).subscriptions).beside rfl
  case neg =>
    have opened : Aside h (a.opening h).2 := .opening ha
    rw [he] at opened
    exact hl.silent opened (by rw [Act.begun_of_not_enlists ha, he])

theorem announced (hl : Timeline h₀ ds h) {a : Act ξ} {em : Emission} (he : a.opening h = (some em, h')) :
    Timeline h₀ (ds ++ a.begun h) (em.numbered h') := by
  have ha : ¬a.Enlists := Act.not_enlists_of_announced he
  have opened : Aside h (a.opening h).2 := .opening ha
  rw [he] at opened
  rw [Act.begun_of_not_enlists ha, he]
  exact (hl.beside opened.buses).deed (.send em)

theorem delivery {share : Turn ξ σ → List (Deed ξ × Host ξ σ)} {em : Emission} (hl : Timeline h₀ ds (em.numbered h))
    (turn : ∀ t ∈ em.turns guests h, ∀ ds, Timeline h₀ ds t.before → Timeline h₀ (ds ++ share t) t.after) :
    Timeline h₀ (ds ++ (em.turns guests h).flatMap share) (em.carryOut guests h).2 :=
  deliver_tells (P := Timeline h₀) (fun _ _ _ hl => hl.beside rfl) (fun _ _ _ hl => hl.beside rfl) turn hl

theorem closing {em : Emission} (hl : Timeline h₀ ds (em.carryOut guests h').2) {a : Act ξ}
    (he : a.opening h = (some em, h')) :
    Timeline h₀ (ds ++ a.ended guests h) (a.closing (em.carryOut guests h').2) := by
  cases a
  case enable id settings =>
    have bound : Aside (em.carryOut guests h').2 ((em.carryOut guests h').2.refresh id).2 := .refresh id
    simp only [Act.ended, Act.closing, he]
    cases hr : (em.carryOut guests h').2.refresh id with
    | mk r k =>
      rw [hr] at bound
      cases r with
      | error e => exact hl.silent bound rfl
      | ok u    => exact (hl.beside bound.buses).listen id
  all_goals exact hl.silent .refl rfl

theorem carryOut {share : Turn ξ σ → List (Deed ξ × Host ξ σ)} {a : Act ξ} (hl : Timeline h₀ ds h)
    (turn : ∀ t ∈ a.turns guests h, ∀ x, t.subscription.observer = .guest x →
      ∀ ds, Timeline h₀ ds t.before → Timeline h₀ (ds ++ share t) t.after)
    (other : ∀ t ∈ a.turns guests h, (∀ x, t.subscription.observer ≠ .guest x) → share t = []) :
    Timeline h₀ (ds ++ (a.begun h ++ (a.turns guests h).flatMap share ++ a.ended guests h))
      (a.carryOut guests h).2 := by
  have turn : ∀ t ∈ a.turns guests h, ∀ ds, Timeline h₀ ds t.before → Timeline h₀ (ds ++ share t) t.after := by
    intro t ht ds hb
    cases t.guest_or_plugin with
    | inl guest  => exact turn t ht guest.choose guest.choose_spec ds hb
    | inr plugin => exact hb.silent (.turn ht plugin) (other t ht plugin)
  cases a.carryOut_cases guests h with
  | inl silent =>
    have ⟨he, done, nobody⟩ := silent
    rw [done, nobody, Act.ended_of_silent he, List.flatMap_nil, List.append_nil, List.append_nil]
    exact hl.opened he
  | inr announced =>
    have ⟨em, he, done, notified⟩ := announced
    rw [notified] at turn
    rw [done, notified, ← List.append_assoc, ← List.append_assoc]
    exact ((hl.announced he).delivery turn).closing he

variable {behave : Behaviour ξ σ}

theorem program {performing : (a : Act ξ) → Host ξ σ → Except Failure a.Reply × Host ξ σ}
    {told : Act ξ → Host ξ σ → List (Deed ξ × Host ξ σ)} (p : Program ξ σ α)
    (acts : ∀ a h ds, Timeline h₀ ds h → Timeline h₀ (ds ++ told a h) (performing a h).2)
    (hl : Timeline h₀ ds h) : Timeline h₀ (ds ++ p.annals performing told h) (p.run performing h).2 := by
  have looked (a : Act ξ) (k : Host ξ σ) (ds : List (Deed ξ × Host ξ σ)) (hl : Timeline h₀ ds k) :
      Timeline h₀ (ds ++ (.look, k) :: told a k) (performing a k).2 := by
    have hl := acts a k _ (hl.deed .look)
    rwa [List.append_assoc] at hl
  have run := p.run_tells (P := Timeline h₀) (fun _ _ _ hl => hl.beside rfl) (fun a k _ ds => looked a k ds) hl
  rw [Program.annals, ← List.append_assoc]
  exact run.deed .look

theorem perform (n : Nat) (a : Act ξ) (hl : Timeline h₀ ds h) :
    Timeline h₀ (ds ++ behave.deeds n a h) (Host.perform behave n a h).2 := by
  induction n generalizing a h ds with
  | zero => simpa only [Behaviour.deeds, Host.perform, List.append_nil] using hl
  | succ n ih =>
    refine hl.carryOut ?guest ?other
    case guest =>
      intro t ht x hx ds hb
      rw [Behaviour.after_eq_run ht hx]
      simp only [hx]
      exact hb.program _ fun a _ _ hl => ih a hl
    case other =>
      intro t _ hx
      split
      case h_1 x he => exact absurd he (hx x)
      case h_2 => rfl

theorem annals (p : Program ξ σ α) (n : Nat) (h : Host ξ σ) :
    Timeline h (behave.annals n p h) (p.run (Host.perform behave n) h).2 :=
  Timeline.refl.program p fun a _ _ hl => hl.perform n a

theorem moment {p : Program ξ σ α} {n : Nat} {earlier later : List (Deed ξ × Host ξ σ)} {d : Deed ξ} {k : Host ξ σ}
    (split : behave.annals n p h = earlier ++ (d, k) :: later) : Timeline h earlier k :=
  (annals p n h).before_deed split

end Timeline
end Host
end Chatline
