import Mathlib.Data.List.Basic
import Chatline.Proofs.Dispatch.Chronicle
import Chatline.Proofs.Passing.Readiness

namespace Chatline

variable {ξ σ α β : Type}

namespace Act

def newcomer? (b : BusId) : Act ξ → Option (Priority × ξ)
  | subscribe b' topic priority x => if b' = b ∧ topic = Host.chatTopic then some (priority, x) else none
  | _ => none

-- Besides what may be done anyway, guests may subscribe. Those who subscribe to the messages on a bus come
-- between the passes of a plugin.
def Welcoming (L : PluginId → Prop) (b : BusId) (a : Act ξ) : Prop :=
  match a with
  | subscribe _ _ _ _ => ∀ x, a.newcomer? b = some x → x.1.Between
  | _                 => a.Chatting L

theorem Welcoming.chatting {L : PluginId → Prop} {b : BusId} {a : Act ξ} (welcoming : a.Welcoming L b) :
    a.Chatting L ∧ a.newcomer? b = none ∨
      ∃ b' topic priority x, a = .subscribe b' topic priority x ∧ ∀ x, a.newcomer? b = some x → x.1.Between := by
  cases a
  case subscribe b' topic priority x => exact .inr ⟨b', topic, priority, x, rfl, welcoming⟩
  all_goals exact .inl ⟨welcoming, rfl⟩

end Act

def newcomers (b : BusId) (acts : List (Act ξ × Host ξ σ)) : List (Priority × ξ) :=
  acts.filterMap (·.1.newcomer? b)

namespace Host

def session (behave : Behaviour ξ σ) (n : Nat) (id : PluginId) (settings : Option Settings) (b : BusId)
    (h : Host ξ σ) (xs ys : List (Priority × ξ)) : Host ξ σ :=
  (perform behave (n + 1) (.enable id settings) (h.enrol b xs)).2.enrol b ys

variable {L : PluginId → Prop} {h h' : Host ξ σ} {id : PluginId} {b : BusId}
  {xs ys zs : List (Priority × ξ)} {behave : Behaviour ξ σ} {n : Nat} {settings : Option Settings}

namespace Staffed

theorem ongoing (hs : Staffed b id xs h) (ho : Ongoing L id h h') : Staffed b id xs h' where
  sorted := hs.sorted.ongoing ho
  roles  := by
    rw [ho.roles]
    exact hs.roles

theorem enrol (hs : Staffed b id xs h) (between : ∀ x ∈ ys, x.1.Between) :
    Staffed b id (xs ++ ys) (h.enrol b ys) where
  sorted := hs.sorted.enrol b ys
  roles  := by
    have hl : ∀ t ∈ [(Priority.lowest, Observer.installer (ξ := ξ) id)], t.1 = .lowest := by simp
    have hm : ∀ t ∈ [(Priority.highest, Observer.resolver (ξ := ξ) id)], t.1 = .highest := by simp
    rw [hs.sorted.roles_enrol, hs.roles]
    exact foldl_place_lineup between hl hm

theorem subscribe {b' : BusId} {topic : String} {priority : Priority} {x : ξ} (hs : Staffed b id xs h)
    (between : ∀ y, (Act.subscribe b' topic priority x).newcomer? b = some y → y.1.Between) :
    Staffed b id (xs ++ ((Act.subscribe b' topic priority x).newcomer? b).toList)
      (h.subscribe b' topic priority (.guest x)).2 := by
  by_cases hb : b' = b ∧ topic = chatTopic
  case pos =>
    have hn : (Act.subscribe b' topic priority x).newcomer? b = some (priority, x) := if_pos hb
    have hx : priority.Between := between _ hn
    rw [hn]
    cases hb.left
    cases hb.right
    exact hs.enrol (by simpa using hx)
  case neg =>
    have hn : (Act.subscribe b' topic priority x).newcomer? b = none := if_neg hb
    rw [hn, Option.toList_none, List.append_nil]
    constructor
    case sorted => exact hs.sorted.subscribe _ _ _ _
    case roles =>
      rw [hs.sorted.roles_subscribe, if_neg fun ⟨hb', ht⟩ => hb ⟨hb'.symm, ht⟩]
      exact hs.roles

theorem live (hs : Staffed b id xs h) : ∃ sA ss sB, (h.bus b).live chatTopic = sA :: (ss ++ [sB]) ∧
    sA.role = (.lowest, .installer id) ∧ ss.map (·.role) = lineup xs ∧ sB.role = (.highest, .resolver id) := by
  have ⟨sA, rest, hl, hA, hr⟩ := List.map_eq_cons_iff.mp hs.roles
  have ⟨ss, last, hr, hg, hlast⟩ := List.map_eq_append_iff.mp hr
  have ⟨sB, he, hB⟩ := List.map_eq_singleton_iff.mp hlast
  rw [hr, he] at hl
  exact ⟨sA, ss, sB, hl, hA, hg, hB⟩

variable {a : Act ξ}

theorem perform (mild : ∀ x e, (behave x e).Keeps (Act.Mild L)) (hs : Staffed b id xs h)
    (welcoming : a.Welcoming L b) :
    Staffed b id (xs ++ (a.newcomer? b).toList) (perform behave (n + 1) a h).2 := by
  cases welcoming.chatting with
  | inl hq =>
    have ho : Ongoing L id h (Host.perform behave (n + 1) a h).2 :=
      Behaviour.ongoing_perform mild (n + 1) hq.left
    rw [hq.right, Option.toList_none, List.append_nil]
    exact hs.ongoing ho
  | inr hq =>
    have ⟨b', topic, priority, x, he, between⟩ := hq
    subst he
    exact hs.subscribe between

theorem acts (mild : ∀ x e, (behave x e).Keeps (Act.Mild L)) {p : Program ξ σ α}
    (keeps : p.Keeps (Act.Welcoming L b)) (hs : Staffed b id xs h) {earlier later : List (Act ξ × Host ξ σ)}
    (he : p.acts (Host.perform behave (n + 1)) h = earlier ++ (a, h') :: later) :
    Staffed b id (xs ++ newcomers b earlier) h' := by
  have told : earlier.flatMap (fun x => (x.1.newcomer? b).toList) = newcomers b earlier := by
    rw [newcomers, List.filterMap_eq_flatMap_toList]
  rw [← told]
  exact Program.acts_tell (P := fun xs h => Staffed b id xs h) he (fun _ _ _ hs => ⟨hs.sorted, hs.roles⟩)
    (fun _ _ hm _ hs => hs.perform mild (keeps.acts hm)) hs

end Staffed

theorem subscribed_session (hb : (h.plugin id).bus = b) (mild : ∀ x e, (behave x e).Keeps (Act.Mild (· = id)))
    (enabled : (perform behave (n + 1) (.enable id settings) (h.enrol b xs)).1 = .ok ()) (c : BusId) :
    ((session behave n id settings b h xs ys).bus c).subscribed =
      (h.bus c).subscribed + if c = b then (xs ++ ys).length + 4 else 0 := by
  have ⟨h', ready, listening⟩ := ready_of_enabled enabled
  have ongoing := ready.ongoing mild rfl
  have bus : (h'.plugin id).bus = b := by rw [ongoing.bus, plugin_enrol, hb]
  rw [session, listening, subscribed_enrol, subscribed_listen, bus, ongoing.subscribed, subscribed_enrol,
    List.length_append]
  split <;> omega

-- Whatever guests do while the plugin is put to work, its passes are around all who have subscribed by then,
-- and around all who subscribe afterwards.
theorem Sorted.staffed_session (hs : h.Sorted) (present : (h.bus b).roles chatTopic = lineup zs)
    (hb : (h.plugin id).bus = b) (between : ∀ x ∈ xs ++ ys, x.1.Between)
    (mild : ∀ x e, (behave x e).Keeps (Act.Mild (· = id)))
    (enabled : (perform behave (n + 1) (.enable id settings) (h.enrol b xs)).1 = .ok ()) :
    Staffed b id (zs ++ (xs ++ ys)) (session behave n id settings b h xs ys) := by
  have ⟨betweenX, betweenY⟩ := List.forall_mem_append.mp between
  have ⟨h', ready, listening⟩ := ready_of_enabled enabled
  have ongoing := ready.ongoing mild rfl
  have bus : (h'.plugin id).bus = b := by rw [ongoing.bus, plugin_enrol, hb]
  have roles : (h'.bus (h'.plugin id).bus).roles chatTopic = lineup (zs ++ xs) := by
    have placed : xs.foldl (fun l x => Bus.place (x.1, .guest x.2) l) ([] ++ (lineup zs ++ [])) =
        [] ++ (lineup (zs ++ xs) ++ []) :=
      foldl_place_lineup betweenX (fun _ ht => nomatch ht) fun _ ht => nomatch ht
    simp only [List.nil_append, List.append_nil] at placed
    rw [bus, ongoing.roles, hs.roles_enrol, present]
    exact placed
  have staffed := (hs.enrol b xs).ongoing ongoing |>.staffed_listen roles
  rw [bus] at staffed
  rw [session, listening, ← List.append_assoc]
  exact staffed.enrol betweenY

end Host
end Chatline
