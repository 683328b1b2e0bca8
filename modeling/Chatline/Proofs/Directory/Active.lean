import Chatline.Proofs.Directory.Calls
import Chatline.Proofs.Dispatch.Trail

namespace Chatline

variable {ξ σ α : Type}

def Act.call? (d : DirectoryId) : Act ξ → Option Call
  | register d' k p   => if d' = d then some (.register k p) else none
  | unregister d' k p => if d' = d then some (.unregister k p) else none
  | _                 => none

def Juncture.call? (d : DirectoryId) (m : Juncture ξ σ) : Option Call :=
  m.act.bind (·.call? d)

namespace Host

variable {h h₀ : Host ξ σ} {d : DirectoryId}

theorem directory_setDirectory_carryOut (d' : DirectoryId) (c : Call) :
    (h.setDirectory d' (c.carryOut (h.directory d'))).directory d =
      (if d' = d then some c else none : Option Call).elim (h.directory d) (·.carryOut (h.directory d)) := by
  rw [directory_setDirectory]
  by_cases he : d' = d
  case pos =>
    subst he
    rw [if_pos rfl, if_pos rfl, Option.elim_some]
  case neg => rw [if_neg (Ne.symm he), if_neg he, Option.elim_none]

theorem directory_opening (hd : d.number < h.fresh) (a : Act ξ) :
    (a.opening h).2.directory d = (a.call? d).elim (h.directory d) (·.carryOut (h.directory d)) := by
  cases a
  case register d' k p => exact directory_setDirectory_carryOut d' (.register k p)
  case unregister d' k p =>
    simp only [Act.opening]
    split
    case isTrue => exact directory_setDirectory_carryOut d' (.unregister k p)
    case isFalse hp =>
      have same : (Call.unregister k p).carryOut (h.directory d') = h.directory d' :=
        Call.unregister_of_not_holds (Bool.eq_false_iff.mpr hp)
      rw [Act.call?]
      split
      case isTrue he =>
        subst he
        exact same.symm
      case isFalse => rfl
  all_goals exact (Act.opening_changes _ h).directory (.inl hd) (by rintro ⟨⟩)

theorem onward_started (a : Act ξ) : Onward h (a.started h) := by
  have opened : Onward h (a.opening h).2 := .changes (a.opening_changes h)
  rw [Act.started]
  cases he : a.opening h with
  | mk sent h' =>
    rw [he] at opened
    cases sent with
    | none    => exact opened
    | some em => exact opened.trans (.later (Later.refl.number em) (Nat.le_refl _))

theorem directory_started (hd : d.number < h.fresh) (a : Act ξ) :
    (a.started h).directory d = (a.call? d).elim (h.directory d) (·.carryOut (h.directory d)) := by
  rw [← directory_opening hd, Act.started]
  cases he : a.opening h with
  | mk sent h' => cases sent <;> rfl

namespace Trail

variable {ms : List (Juncture ξ σ)}

theorem onward (ht : Trail h₀ ms h) : Onward h₀ h := by
  induction ht with
  | refl           => exact .refl
  | beside _ hb ih => exact ih.trans hb.toOnward
  | look _ ih      => exact ih
  | begin a _ ih   => exact ih.trans (onward_started a)

theorem directory (ht : Trail h₀ ms h) (hd : d.number < h₀.fresh) :
    h.directory d = (ms.filterMap (·.call? d)).foldl Call.carryOut (h₀.directory d) := by
  induction ht with
  | refl => rfl
  | beside _ hb ih => rw [hb.directory, ih]
  | look _ ih => simp [ih, Juncture.call?]
  | begin a ht ih =>
    have still : d.number < _ := Nat.lt_of_lt_of_le hd ht.onward.fresh
    rw [directory_started still, ih, List.filterMap_append, List.foldl_append]
    cases hc : a.call? d <;> simp [Juncture.call?, hc]

end Trail

theorem unregister_fst (guests : Guests ξ σ) (k : Kind) (p : ProviderId) :
    (h.unregister guests d k p).1 = (h.directory d).holds k p := by
  simp only [unregister]
  split
  case isTrue hp => exact hp.symm
  case isFalse hp => exact (Bool.eq_false_iff.mpr hp).symm

structure Vacant (h : Host ξ σ) (d : DirectoryId) : Prop where
  opened : d.number < h.fresh
  empty  : (h.directory d).entries = []

theorem vacant_openDirectory (bus : Option BusId) : (h.openDirectory bus).2.Vacant (h.openDirectory bus).1 := by
  have made (k : Host ξ σ) (x : Directory) : (k.setDirectory ⟨k.fresh⟩ x).directory ⟨k.fresh⟩ = x :=
    (directory_setDirectory k _ _ x).trans (if_pos rfl)
  cases bus with
  | some b => exact ⟨Nat.lt_succ_self _, congrArg Directory.entries (made h { bus := b, entries := [] })⟩
  | none   =>
    exact ⟨Nat.lt_succ_self _, congrArg Directory.entries (made h.openBus.2 { bus := h.openBus.1, entries := [] })⟩

end Host

-- Whoever calls upon a directory, from wherever, what it loads for a kind is told by the calls alone that have been
-- made since it was empty: the provider that has been registered last of those that have not been unregistered
-- since. A provider can be unregistered just if it has been registered and not been unregistered since. And what
-- is loaded for one kind does not depend on calls for others.
theorem Behaviour.active_provider (behave : Behaviour ξ σ) (n : Nat) (p : Program ξ σ α) (h : Host ξ σ)
    (d : DirectoryId) (k : Kind) {earlier between later : List (Juncture ξ σ)} {m₀ m : Juncture ξ σ}
    (split : behave.junctures n p h = earlier ++ m₀ :: (between ++ m :: later)) :
    let calls := (m₀ :: between).filterMap (·.call? d)
    (m₀.host.Vacant d →
      (∀ q, m.host.active d k = some q ↔ Call.Latest calls k q) ∧
      (m.host.active d k = none ↔ ∀ q, ¬ Call.Stands calls k q) ∧
      ∀ q depth, ∃ found after,
        Host.perform behave (depth + 1) (.unregister d k q) m.host = (.ok found, after) ∧
          (found = true ↔ Call.Stands calls k q)) ∧
    (d.number < m₀.host.fresh → (∀ c ∈ calls, c.kind ≠ k) → m.host.active d k = m₀.host.active d k) := by
  intro calls
  have trail : Host.Trail m₀.host (m₀ :: between) m.host := (Host.Trail.junctures p n h).between split
  constructor
  case left =>
    intro vacant
    have called : m.host.directory d = calls.foldl Call.carryOut (m₀.host.directory d) :=
      trail.directory vacant.opened
    simp only [Host.active, called]
    refine ⟨fun q => Call.active_foldl vacant.empty, Call.active_foldl_none vacant.empty, fun q depth => ?_⟩
    refine ⟨(m.host.unregister (behave.guests depth) d k q).1, _, rfl, ?_⟩
    rw [Host.unregister_fst, called, Call.holds_foldl vacant.empty]
  case right =>
    intro opened others
    simp only [Host.active, trail.directory opened]
    exact Call.active_foldl_of_ne others

def Behaviour.usurper : Behaviour Unit Unit := fun _ e => do
  if e.payload.kind? = some .accounts then
    let _ ← Program.perform (.unregister ⟨0⟩ .chatMeta ⟨2⟩)
  return { payload := e.payload, failure := none }

def Program.registerThree : Program Unit Unit Unit := do
  let _ ← perform (.openDirectory (some ⟨0⟩))
  let _ ← perform (.subscribe ⟨0⟩ Directory.registered .normal ())
  let _ ← perform (.register ⟨0⟩ .chatMeta ⟨1⟩)
  let _ ← perform (.register ⟨0⟩ .chatMeta ⟨2⟩)
  let _ ← perform (.register ⟨0⟩ .accounts ⟨3⟩)

theorem Behaviour.active_provider_usurped :
    let junctures := Behaviour.usurper.junctures 2 .registerThree (.new .bare {} ())
    ∃ m₀ m, junctures = junctures.take 2 ++ m₀ :: ((junctures.drop 3).take 12 ++ m :: []) ∧
      m₀.host.Vacant ⟨0⟩ ∧ m.host.active ⟨0⟩ .chatMeta = some ⟨1⟩ ∧
      m.host.active ⟨0⟩ .verifierPrefixes = m₀.host.active ⟨0⟩ .verifierPrefixes := by
  intro junctures
  have split : junctures = junctures.take 2 ++ _ :: ((junctures.drop 3).take 12 ++ _ :: []) := rfl
  have provider := fun k => Behaviour.active_provider Behaviour.usurper 2 .registerThree (.new .bare {} ()) ⟨0⟩ k split
  have gone : ∀ q, ¬ Call.Stands [.register .chatMeta ⟨2⟩, .register .accounts ⟨3⟩, .unregister .chatMeta ⟨2⟩]
      .chatMeta q := Call.live_eq_nil.mp (by decide)
  refine ⟨_, _, split, ?vacant, ?active, ?other⟩
  case vacant => exact ⟨Nat.zero_lt_one, rfl⟩
  case active =>
    have calls := (provider .chatMeta).left ⟨Nat.zero_lt_one, rfl⟩
    exact (calls.left ⟨1⟩).mpr ⟨[], _, rfl, by decide, gone⟩
  case other => exact (provider .verifierPrefixes).right Nat.zero_lt_one (by decide)

end Chatline
