import Chatline.Proofs.Binding.Noticed
import Chatline.Proofs.Directory.Journal

namespace Chatline

variable {ξ σ α : Type}

namespace Call

variable {c : Call} {x : Directory} {id : PluginId} {h : Host ξ σ} {behave : Behaviour ξ σ}

-- A call that leaves the active provider as it is: that one is registered again, or another one is taken back.
def Idle (x : Directory) : Call → Prop
  | register k p   => x.active k = some p
  | unregister k p => x.active k ≠ some p

theorem active_of_idle (hi : c.Idle x) : (c.carryOut x).active c.kind = x.active c.kind := by
  cases c with
  | register k p   => exact (x.active_register k p).trans hi.symm
  | unregister k p =>
    rw [carryOut, kind, Directory.active, Directory.active, Directory.providers_unregister, if_pos rfl]
    cases List.eq_nil_or_concat (x.providers k) with
    | inl none => rw [none]; rfl
    | inr some =>
      obtain ⟨qs, q, he⟩ := some
      rw [List.concat_eq_append] at he
      have other : q ≠ p := by
        rintro rfl
        exact hi (by rw [Directory.active, he, List.getLast?_concat])
      have last : [q].filter (· ≠ p) = [q] := by simp [other]
      rw [he, List.filter_append, last, List.getLast?_concat, List.getLast?_concat]

theorem near_actives (c : Call) (x : Directory) : Bindings.Near c.kind x.actives (c.carryOut x).actives := by
  intro k hk
  apply Directory.slot?_actives_congr
  rw [Directory.active, providers_carryOut_of_ne hk.symm, Directory.active]

theorem actives_of_idle (hi : c.Idle x ∨ ∃ title, c.kind = .other title) : (c.carryOut x).actives = x.actives := by
  apply Bindings.ext_slot
  intro k
  by_cases hk : k = c.kind
  case neg => exact c.near_actives x k hk
  case pos =>
    subst hk
    cases hi with
    | inl idle  => exact Directory.slot?_actives_congr (active_of_idle idle)
    | inr other =>
      obtain ⟨title, he⟩ := other
      rw [he]
      rfl

def begun (c : Call) (h : Host ξ σ) (d : DirectoryId) : Host ξ σ :=
  (c.emission h d).numbered (c.changed h d)

theorem notices_begun (d : DirectoryId) : (c.begun h d).notices = h.notices := by
  have changed : (c.changed h d).notices = h.notices := by cases c <;> exact Host.notices_note rfl
  exact (Host.notices_note rfl).trans changed

theorem directoryOf_begun : (c.begun h (h.plugin id).directory).directoryOf id = c.carryOut (h.directoryOf id) :=
  c.directory_changed

theorem wired_begun (hw : h.Wired id) (safe : (c.act (h.plugin id).directory : Act ξ).Safe id h) :
    (c.begun h (h.plugin id).directory).Wired id := by
  have named : ∀ q ∈ (c.carryOut (h.directoryOf id)).providers .chatMeta, h.Named q := by
    cases c with
    | register k p   =>
      have hp : k = .chatMeta → h.Named p := by
        rintro rfl
        exact safe rfl
      exact hw.named_register hp
    | unregister k p => exact hw.named_unregister k p
  have changed := hw.change (c.bus_carryOut (h.directoryOf id)) named
  exact (changed.tended (.note (c.record (h.plugin id).directory))).tended (.number _)

theorem noticed {d : DirectoryId} {n : Nat} (effective : c.effective (h.directory d) = true)
    (hw : (c.begun h d).Wired id)
    (quiet : ∀ l a' h', Behaviour.Course behave (n + 1) (c.act d) h l a' h' → l < n + 1 →
      a'.Safe id h' ∧ a'.Quiet id h') :
    Host.Noticed id (c.begun h d) (behave.notices (n + 1) (c.act d) h) (Host.perform behave (n + 1) (c.act d) h).2 := by
  have opened : (c.act d).opening h = (some (c.emission h d), c.changed h d) := by rw [opening_act, effective]; rfl
  have turns : (c.act d).turns (behave.guests n) h = (c.emission h d).turns (behave.guests n) (c.changed h d) :=
    Act.turns_of_opening opened
  have told : behave.notices (n + 1) (c.act d) h =
      [] ++ ((c.emission h d).turns (behave.guests n) (c.changed h d)).flatMap fun t =>
        behave.share n (behave.notices n) t ++ t.notices := by
    rw [← turns]
    cases c <;> exact List.append_nil _
  rw [told, perform_of_effective effective]
  refine Host.Noticed.refl.delivery fun t ht ns hb => ?_
  rw [← turns] at ht
  refine hb.turn ht fun x a₁ h₁ hx hm ns hn => hn.perform hw fun m a' h' hc => ?_
  exact quiet m a' h' (.nest ht hx hm hc) (Nat.lt_succ_of_le hc.le)

end Call

namespace Host

-- What a call and the notices that have been written because of it have to do with each other: there are no others in
-- the log, and those of a plugin are about what the call has made of the active providers of its directory.
structure Reported (id : PluginId) (c : Call) (h : Host ξ σ) (ns : List (PluginId × Record)) (h' : Host ξ σ) :
    Prop where
  directory : (h'.plugin id).directory = (h.plugin id).directory
  actives   : h'.actives id = h.actives id ∨ h'.actives id = (c.carryOut (h.directoryOf id)).actives
  log       : h'.notices = h.notices ++ ns.map (·.2)
  own       : ∃ name, h'.activeName id = .ok name ∧ ownNotices id ns = (h.actives id).notices name (h'.actives id)

namespace Reported

variable {id : PluginId} {h h' : Host ξ σ} {c : Call} {ns : List (PluginId × Record)} {behave : Behaviour ξ σ} {n : Nat}

theorem still (hw : h.Wired id) (done : h' = h) (none : ns = []) : Reported id c h ns h' := by
  subst done
  subst none
  have ⟨name, named⟩ := hw.activeName
  exact { directory := rfl, actives := .inl rfl, log := (List.append_nil _).symm,
          own := ⟨name, named, Bindings.notices_self.symm⟩ }

theorem announced (hs : h.InStep id fun _ => True) (synced : h'.InSync id)
    (wired : (c.begun h (h.plugin id).directory).Wired id)
    (hn : Noticed id (c.begun h (h.plugin id).directory) ns h') : Reported id c h ns h' := by
  have begun : (c.begun h (h.plugin id).directory).actives id = (c.carryOut (h.directoryOf id)).actives :=
    congrArg Directory.actives Call.directoryOf_begun
  have bound : ((c.begun h (h.plugin id).directory).plugin id).bindings = h.actives id := hs.inSync
  -- The plugin was in step, and the call has changed what is active for one kind at most.
  have near : Bindings.Near c.kind ((c.begun h (h.plugin id).directory).plugin id).bindings
      ((c.begun h (h.plugin id).directory).actives id) := by
    rw [bound, begun]
    exact c.near_actives (h.directoryOf id)
  have ⟨name, named⟩ := wired.activeName
  have ⟨_, own⟩ := hn.own wired near named
  rw [bound, show (h'.plugin id).bindings = h'.actives id from synced] at own
  constructor
  case directory => exact hn.tended.handle
  case actives => exact .inr (hn.actives.trans begun)
  case log => rw [hn.notices, Call.notices_begun]
  case own => exact ⟨name, hn.activeName.trans named, own⟩

theorem perform (faithful : behave.Faithful) (hs : h.InStep id fun _ => True)
    (safe : ∀ l a' h', Behaviour.Course behave n (c.act (h.plugin id).directory) h l a' h' → a'.Safe id h')
    (quiet : ∀ l a' h', Behaviour.Course behave n (c.act (h.plugin id).directory) h l a' h' → l < n → a'.Quiet id h') :
    Reported id c h (behave.notices n (c.act (h.plugin id).directory) h)
      (Host.perform behave n (c.act (h.plugin id).directory) h).2 := by
  cases n with
  | zero   => exact .still hs.wired rfl rfl
  | succ n =>
    cases effective : c.effective (h.directory (h.plugin id).directory) with
    | false =>
      have silent : (c.act (h.plugin id).directory).opening h = (none, h) := by rw [Call.opening_act, effective]; rfl
      have nobody : (c.act (h.plugin id).directory).turns (behave.guests n) h = [] := by rw [Act.turns, silent]
      refine .still hs.wired (Call.perform_of_not_effective effective n) ?_
      rw [Behaviour.notices, nobody, Act.closingNotices_of_silent silent]
      cases c <;> rfl
    | true =>
      have wired := Call.wired_begun hs.wired (safe _ _ _ .refl)
      have synced := InStep.inSync (Kept.perform faithful safe (some _) hs)
      apply announced hs synced wired
      exact Call.noticed effective wired fun l a' h' hc hl => ⟨safe l a' h' hc, quiet l a' h' hc hl⟩

end Reported
end Host

namespace Behaviour

-- Once a plugin has been put to work, it writes a notice for every call upon its directory by which another provider
-- becomes active, and says which one, and writes nothing because of any other call. Nobody may make further changes
-- while the call is being announced. Whatever else guests do, they may make the plugin bind its providers early, or
-- announce things that have not happened.
theorem notices_on_change {behave : Behaviour ξ σ} (faithful : behave.Faithful) {id : PluginId}
    {settings : Option Settings} {h : Host ξ σ} (wired : h.Wired id) {n m : Nat}
    (enabled : (Host.perform behave n (.enable id settings) h).1 = .ok ())
    (enabling : ∀ l a h', Course behave n (.enable id settings) h l a h' → a.Safe id h')
    (p : Program ξ σ α)
    (running : ∀ a h',
      (a, h') ∈ p.acts (Host.perform behave m) (Host.perform behave n (.enable id settings) h).2 →
      ∀ l a' h'', Course behave m a h' l a' h'' → a'.Safe id h'')
    {a : Act ξ} {before : Host ξ σ}
    (act : (a, before) ∈ p.acts (Host.perform behave m) (Host.perform behave n (.enable id settings) h).2)
    {c : Call} (call : a.call? (before.plugin id).directory = some c)
    (quiet : ∀ l a' h', Course behave m a before l a' h' → l < m → a'.Quiet id h') :
    let d := (before.plugin id).directory
    let after := (Host.perform behave m a before).2
    let notices := behave.notices m a before
    after.notices = before.notices ++ notices.map (·.2) ∧
      (∃ name, (after.active d .chatMeta).mapM (fun q => (after.provider q).name?) = .ok name ∧
        (ownNotices id notices).map Record.text =
          (if after.active d .chatMeta = before.active d .chatMeta then []
            else ["New chat meta provider registered: " ++ name.getD "null"]) ++
          ((if after.active d .accounts = before.active d .accounts then [] else ["Linked account lookup changed"]) ++
          (if after.active d .verifierPrefixes = before.active d .verifierPrefixes then []
            else ["Verifier prefix registry changed"]))) ∧
      (ownNotices id notices).length ≤ 1 ∧
      (c.Idle (before.directory d) ∨ (∃ title, c.kind = .other title) → ownNotices id notices = []) := by
  intro d after notices
  have begun := wired.enable faithful enabling enabled
  have inStep : before.InStep id fun _ => True :=
    (Host.Kept.run faithful p running (some fun _ => True) begun).right a before act
  have safe := running a before act
  obtain rfl := Call.eq_act call
  have reported := Host.Reported.perform faithful inStep safe quiet
  have ⟨name, named, own⟩ := reported.own
  refine ⟨reported.log, ⟨name, ?name, ?texts⟩, ?once, ?idle⟩
  case name =>
    rw [Host.activeName, reported.directory] at named
    exact named
  case texts =>
    have loaded (k : Kind) : after.active d k = after.active (after.plugin id).directory k := by rw [reported.directory]
    rw [own, Bindings.text_notices, loaded, loaded, loaded]
    rfl
  case once =>
    rw [own]
    cases reported.actives with
    | inl same    => simp [same, Bindings.notices_self]
    | inr changed =>
      rw [changed]
      exact (c.near_actives (before.directoryOf id)).length_notices
  case idle =>
    intro idle
    have same : after.actives id = before.actives id :=
      reported.actives.elim (fun same => same) fun changed => changed.trans (Call.actives_of_idle idle)
    rw [own, same, Bindings.notices_self]

def hasty : Behaviour Unit Unit := fun _ e =>
  if e.envelope.topic = Directory.registered then do
    let _ ← Program.perform (.refresh ⟨2⟩)
    return { payload := e.payload, failure := some (.raised "hasty") }
  else return { payload := e.payload, failure := none }

theorem hasty_faithful : hasty.Faithful := by
  intro x e performing h _
  simp only [hasty]
  split <;> rfl

theorem hasty_course {n m : Nat} {a a' : Act Unit} {h h' : Host Unit Unit} (hc : Course hasty n a h m a' h') :
    (m = n ∧ a' = a ∧ h' = h) ∨ a' = .refresh ⟨2⟩ := by
  induction hc with
  | refl => exact .inl ⟨rfl, rfl, rfl⟩
  | nest ht hx hm _ ih =>
    simp only [hasty] at hm
    split at hm
    case isTrue =>
      cases hm with
      | head => exact ih.elim (fun he => .inr he.right.left) .inr
      | tail _ hm => cases hm
    case isFalse => cases hm

theorem notices_on_change_hasty :
    let before := (Host.perform hasty 3 (.enable ⟨2⟩ (some .default)) spoiled).2
    let notices := hasty.notices 3 (.register ⟨1⟩ .chatMeta ⟨3⟩) before
    (Host.perform hasty 3 (.register ⟨1⟩ .chatMeta ⟨3⟩) before).2.notices = before.notices ++ notices.map (·.2) ∧
      (ownNotices ⟨2⟩ notices).map Record.text = ["New chat meta provider registered: meta"] := by
  intro before notices
  have wired : spoiled.Wired ⟨2⟩ := ⟨by decide, by decide, rfl, fun _ hq => nomatch hq⟩
  have enabled : (Host.perform hasty 3 (.enable ⟨2⟩ (some .default)) spoiled).1 = .ok () := rfl
  have reported := notices_on_change (m := 3) hasty_faithful wired enabled ?enabling registerBoth ?running (.head _)
    (c := .register .chatMeta ⟨3⟩) rfl ?quiet
  case enabling =>
    intro l a h' hc
    cases hasty_course hc with
    | inl he => rw [he.right.left]; trivial
    | inr he => rw [he]; trivial
  case running =>
    intro a h' hm l a' h'' hc
    cases hasty_course hc with
    | inl he =>
      rw [he.right.left, he.right.right]
      cases hm with
      | head => exact fun _ => ⟨by decide, _, rfl⟩
      | tail _ hm =>
        cases hm with
        | head => trivial
        | tail _ hm => cases hm
    | inr he => rw [he]; trivial
  case quiet =>
    intro l a' h' hc hl
    cases hasty_course hc with
    | inl he => exact absurd he.left (Nat.ne_of_lt hl)
    | inr he =>
      subst he
      exact { aloof := not_false, names := nofun }
  have ⟨log, ⟨name, named, texts⟩, _⟩ := reported
  cases named
  exact ⟨log, texts⟩

end Behaviour
end Chatline
