import Chatline.Proofs.Passing.Discreet

namespace Chatline

variable {ξ σ α : Type}

theorem Program.keeps_all (p : Program ξ σ α) : p.Keeps fun _ => True := by
  induction p with
  | done _      => trivial
  | look _ ih   => exact ih
  | keep _ _ ih => exact ih
  | act _ _ ih  => exact ⟨trivial, ih⟩

namespace Host

def mute (h : Host ξ σ) : Host ξ σ :=
  { h with log := [], asked := [] }

-- Hosts that differ only in what has been logged and asked.
def Akin (h h' : Host ξ σ) : Prop :=
  h.mute = h'.mute

variable {h h' : Host ξ σ} {guests : Guests ξ σ}

namespace Akin

theorem same (ha : Akin h h') (f : Host ξ σ → α) (hf : ∀ h, f h = f h.mute) : f h = f h' := by
  rw [hf h, hf h', ha]

theorem kindred : Kindred (fun _ _ => True) (Akin (ξ := ξ) (σ := σ)) where
  world ha        := ha.same (·.world) fun _ => rfl
  plugin ha id    := ha.same (fun h => (h.plugin id).rest) fun _ => rfl
  roles ha _      := ha.same (fun h => (h.bus _).roles _) fun _ => rfl
  number ha em    := ⟨ha.same em.envelope fun _ => rfl, ha.same (fun h => (em.numbered h).mute) fun _ => rfl⟩
  noteAll ha _ _  := ha
  ask ha _        := ha
  within ha k     := ha.same (fun h => (h.within k).mute) fun _ => rfl
  alter ha id f _ := ha.same (fun h => (h.setPlugin id (f (h.plugin id))).mute) fun _ => rfl

theorem agree {f : Host ξ σ → α × Host ξ σ} (hf : ∀ h, Agree Akin (f h) (f h.mute)) (ha : Akin h h') :
    Agree Akin (f h) (f h') := by
  have there : Agree Akin (f h') (f h.mute) := ha ▸ hf h'
  exact ⟨(hf h).left.trans there.left.symm, (hf h).right.trans there.right.symm⟩

theorem openBus (ha : Akin h h') : Agree Akin h.openBus h'.openBus := by
  refine ha.agree (f := Host.openBus) fun h => ?_
  rcases h with ⟨_ | _⟩ <;> exact ⟨rfl, rfl⟩

theorem openDirectory (ha : Akin h h') (bus : Option BusId) : Agree Akin (h.openDirectory bus) (h'.openDirectory bus) := by
  refine ha.agree (f := (·.openDirectory bus)) fun h => ?_
  cases bus <;> rcases h with ⟨_ | _⟩ <;> exact ⟨rfl, rfl⟩

theorem attach (ha : Akin h h') (path : Option String) (saves : Bool) (bus : Option BusId) (d : Option DirectoryId) :
    Agree Akin (h.attach path saves bus d) (h'.attach path saves bus d) := by
  refine ha.agree (f := (·.attach path saves bus d)) fun h => ?_
  cases bus <;> cases d <;> rcases h with ⟨_ | _⟩ <;> exact ⟨rfl, rfl⟩

theorem unsubscribe (ha : Akin h h') (id : SubscriptionId) : Akin (h.unsubscribe id) (h'.unsubscribe id) := by
  refine (ha.agree (f := fun h => ((), h.unsubscribe id)) fun h => ⟨rfl, ?_⟩).right
  have same : h.mute.bus id.bus = h.bus id.bus := rfl
  simp only [Host.unsubscribe, same]
  split <;> rfl

theorem unsubscribeAll (ha : Akin h h') (is : List SubscriptionId) :
    Akin (is.foldl Host.unsubscribe h) (is.foldl Host.unsubscribe h') := by
  induction is generalizing h h' with
  | nil          => exact ha
  | cons i is ih => exact ih (ha.unsubscribe i)

theorem disable (ha : Akin h h') (id : PluginId) : Akin (h.disable id) (h'.disable id) := by
  have plugin : h.plugin id = h'.plugin id := ha.same (·.plugin id) fun _ => rfl
  have ended := ha.unsubscribeAll (h.plugin id).subscriptions
  simp only [Host.disable]
  rw [← plugin]
  exact ended.same (fun h => (h.setPlugin id { h.plugin id with subscriptions := [] }).mute) fun _ => rfl

theorem enable (ha : Akin h h') (hg : Respects Akin guests) (id : PluginId) (settings : Option Settings) :
    Agree Akin (h.enable guests id settings) (h'.enable guests id settings) := by
  rw [enable_attempt, enable_attempt]
  refine (kindred.provideDefault ha id).attempt fun _ _ _ ha => ?_
  refine (kindred.reloadSettings ha hg (fun _ => trivial) id settings).attempt fun _ _ _ ha => ?_
  refine (kindred.refresh ha id).attempt fun _ _ _ ha => ⟨rfl, ?_⟩
  exact ha.same (fun h => (h.listen id).mute) fun _ => rfl

theorem carryOut (ha : Akin h h') (hg : Respects Akin guests) (a : Act ξ) :
    Agree Akin (a.carryOut guests h) (a.carryOut guests h') := by
  cases a
  case openBus => exact ha.openBus.reply
  case closeBus => exact ⟨rfl, kindred.surround ha (fun h => { h with mainBus := none }) fun _ => rfl⟩
  case openDirectory bus => exact (ha.openDirectory bus).reply
  case subscribe b topic priority x =>
    have subscribed := ha.agree (f := (·.subscribe b topic priority (.guest x))) fun _ => ⟨rfl, rfl⟩
    exact subscribed.reply
  case unsubscribe id => exact ⟨rfl, ha.unsubscribe id⟩
  case emit b topic source p => exact (kindred.emit ha hg trivial source p).reply
  case attach path saves b d => exact (ha.attach path saves b d).reply
  case enable id settings => exact ha.enable hg id settings
  case disable id => exact ⟨rfl, ha.disable id⟩
  case publish b player body => exact (kindred.publish ha hg trivial player body).reply
  all_goals exact kindred.mild ha hg (fun _ _ _ => trivial) (L := fun _ => True) trivial

variable {behave : Behaviour ξ σ}

theorem perform (overlooks : ∀ x e, (behave x e).Overlooks Akin) (n : Nat) (a : Act ξ) (ha : Akin h h') :
    Agree Akin (Host.perform behave n a h) (Host.perform behave n a h') :=
  perform_agree kindred (fun x e => (behave x e).keeps_all) overlooks (fun _ _ ha => ha)
    (fun _ hg a _ _ _ ha => ha.carryOut hg a) n trivial ha

theorem respects (overlooks : ∀ x e, (behave x e).Overlooks Akin) (n : Nat) : Respects Akin (behave.guests n) :=
  respects_of_agree kindred (fun x e => (behave x e).keeps_all) overlooks (fun _ _ ha => ha)
    fun _ ha => ha.perform overlooks n _

theorem run (overlooks : ∀ x e, (behave x e).Overlooks Akin) (n : Nat) {p : Program ξ σ α} (overlooked : p.Overlooks Akin)
    (ha : Akin h h') : Agree Akin (p.run (Host.perform behave n) h) (p.run (Host.perform behave n) h') :=
  Program.run_agree p.keeps_all overlooked (fun _ _ ha => ha) (fun _ _ m ha => kindred.memory ha m)
    (fun a _ _ _ ha => ha.perform overlooks n a) ha

end Akin
end Host
end Chatline
