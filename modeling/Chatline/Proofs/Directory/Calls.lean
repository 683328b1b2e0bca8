import Chatline.Directory

namespace Chatline

inductive Call
  | register (kind : Kind) (provider : ProviderId)
  | unregister (kind : Kind) (provider : ProviderId)
  deriving DecidableEq

namespace Call

def kind : Call → Kind
  | register k _ | unregister k _ => k

def carryOut (d : Directory) : Call → Directory
  | register k p   => d.register k p
  | unregister k p => d.unregister k p

def Stands (cs : List Call) (k : Kind) (p : ProviderId) : Prop :=
  ∃ before after, cs = before ++ register k p :: after ∧ unregister k p ∉ after

-- Of the registrations for a kind that stand, this is the last one.
def Latest (cs : List Call) (k : Kind) (p : ProviderId) : Prop :=
  ∃ before after, cs = before ++ register k p :: after ∧ unregister k p ∉ after ∧ ∀ q, ¬ Stands after k q

def untouched (cs : List Call) (e : Kind × ProviderId) : Bool :=
  decide (unregister e.1 e.2 ∉ cs)

def standing : List Call → List (Kind × ProviderId)
  | []                   => []
  | register k p :: cs   => if untouched cs (k, p) then (k, p) :: standing cs else standing cs
  | unregister _ _ :: cs => standing cs

def live (cs : List Call) (k : Kind) : List ProviderId :=
  ((standing cs).filter (·.1 = k)).map (·.2)

variable {c : Call} {cs : List Call} {k k' : Kind} {p p' : ProviderId} {d : Directory}

theorem untouched_register (cs : List Call) (k : Kind) (p : ProviderId) :
    untouched (register k p :: cs) = untouched cs := by
  funext e
  simp [untouched]

theorem untouched_unregister (cs : List Call) (k : Kind) (p : ProviderId) (e : Kind × ProviderId) :
    untouched (unregister k p :: cs) e = (untouched cs e && decide (e ≠ (k, p))) := by
  rw [Bool.eq_iff_iff]
  simp [untouched, Prod.ext_iff, and_comm]

theorem entries_foldl (cs : List Call) (d : Directory) :
    (cs.foldl carryOut d).entries = d.entries.filter (untouched cs) ++ standing cs := by
  induction cs generalizing d with
  | nil =>
    have all : d.entries.filter (untouched []) = d.entries := List.filter_eq_self.mpr fun _ _ => rfl
    rw [all, standing, List.append_nil, List.foldl_nil]
  | cons c cs ih =>
    rw [List.foldl_cons, ih]
    cases c with
    | register k p =>
      have entered : (d.register k p).entries = d.entries ++ [(k, p)] := rfl
      rw [carryOut, entered, List.filter_append, untouched_register, List.append_assoc, standing]
      by_cases hu : untouched cs (k, p) <;> simp [hu]
    | unregister k p =>
      have taken : (d.unregister k p).entries = d.entries.filter (· ≠ (k, p)) := rfl
      rw [carryOut, taken, standing, List.filter_filter]
      simp only [← untouched_unregister]

theorem split_cons {P : List Call → Prop} {x : Call} :
    (∃ before after, c :: cs = before ++ x :: after ∧ P after) ↔
      (c = x ∧ P cs) ∨ ∃ before after, cs = before ++ x :: after ∧ P after := by
  constructor
  case mp =>
    intro ⟨before, after, split, holds⟩
    cases before with
    | nil =>
      cases split
      exact .inl ⟨rfl, holds⟩
    | cons b before =>
      cases split
      exact .inr ⟨before, after, rfl, holds⟩
  case mpr =>
    intro cases
    cases cases with
    | inl first =>
      have ⟨hc, holds⟩ := first
      exact ⟨[], cs, hc ▸ rfl, holds⟩
    | inr among =>
      have ⟨before, after, split, holds⟩ := among
      exact ⟨c :: before, after, split ▸ rfl, holds⟩

theorem stands_register : Stands (register k' p' :: cs) k p ↔
    (k' = k ∧ p' = p ∧ unregister k p ∉ cs) ∨ Stands cs k p := by
  rw [Stands, split_cons, Call.register.injEq, and_assoc, Stands]

theorem stands_unregister : Stands (unregister k' p' :: cs) k p ↔ Stands cs k p := by
  rw [Stands, split_cons]
  simp [Stands]

theorem latest_register : Latest (register k' p' :: cs) k p ↔
    (k' = k ∧ p' = p ∧ unregister k p ∉ cs ∧ ∀ q, ¬ Stands cs k q) ∨ Latest cs k p := by
  rw [Latest, split_cons (P := fun after => unregister k p ∉ after ∧ ∀ q, ¬ Stands after k q),
    Call.register.injEq, and_assoc, Latest]

theorem latest_unregister : Latest (unregister k' p' :: cs) k p ↔ Latest cs k p := by
  rw [Latest, split_cons (P := fun after => unregister k p ∉ after ∧ ∀ q, ¬ Stands after k q)]
  simp [Latest]

theorem live_unregister : live (unregister k' p' :: cs) k = live cs k :=
  rfl

theorem live_register : live (register k' p' :: cs) k =
    if k' = k ∧ unregister k p' ∉ cs then p' :: live cs k else live cs k := by
  by_cases hk : k' = k
  case pos =>
    subst hk
    by_cases hu : unregister k' p' ∈ cs <;> simp [live, standing, untouched, hu]
  case neg => by_cases hu : unregister k' p' ∈ cs <;> simp [live, standing, untouched, hk, hu]

theorem mem_live : p ∈ live cs k ↔ Stands cs k p := by
  induction cs with
  | nil => simp [live, standing, Stands]
  | cons c cs ih =>
    cases c with
    | unregister k' p' => rw [live_unregister, stands_unregister, ih]
    | register k' p'   =>
      rw [live_register, stands_register, ← ih]
      split
      case isTrue ht =>
        have first : p = p' ↔ k' = k ∧ p' = p ∧ unregister k p ∉ cs :=
          ⟨fun he => ⟨ht.left, he.symm, he ▸ ht.right⟩, fun ⟨_, he, _⟩ => he.symm⟩
        rw [List.mem_cons, first]
      case isFalse hf => exact (or_iff_right fun ⟨hk, he, hu⟩ => hf ⟨hk, he ▸ hu⟩).symm

theorem live_eq_nil : live cs k = [] ↔ ∀ q, ¬ Stands cs k q := by
  rw [List.eq_nil_iff_forall_not_mem]
  exact forall_congr' fun q => not_congr mem_live

theorem getLast?_live : (live cs k).getLast? = some p ↔ Latest cs k p := by
  induction cs with
  | nil => simp [live, standing, Latest]
  | cons c cs ih =>
    cases c with
    | unregister k' p' => rw [live_unregister, latest_unregister, ih]
    | register k' p'   =>
      rw [live_register, latest_register, ← ih, ← live_eq_nil]
      split
      case isTrue ht =>
        cases hl : live cs k with
        | nil =>
          have first : p' = p ↔ k' = k ∧ p' = p ∧ unregister k p ∉ cs :=
            ⟨fun he => ⟨ht.left, he, he ▸ ht.right⟩, fun ⟨_, he, _⟩ => he⟩
          simpa using first
        | cons q qs => simp [List.getLast?_cons_cons]
      case isFalse hf => exact (or_iff_right fun ⟨hk, he, hu, _⟩ => hf ⟨hk, he ▸ hu⟩).symm

theorem providers_foldl (empty : d.entries = []) : (cs.foldl carryOut d).providers k = live cs k := by
  rw [Directory.providers, entries_foldl, empty]
  rfl

theorem active_foldl (empty : d.entries = []) : (cs.foldl carryOut d).active k = some p ↔ Latest cs k p := by
  rw [Directory.active, providers_foldl empty, getLast?_live]

theorem active_foldl_none (empty : d.entries = []) :
    (cs.foldl carryOut d).active k = none ↔ ∀ q, ¬ Stands cs k q := by
  rw [Directory.active, providers_foldl empty, List.getLast?_eq_none_iff, live_eq_nil]

theorem holds_iff : d.holds k p = true ↔ p ∈ d.providers k := by
  simp [Directory.holds, Directory.providers]

theorem holds_foldl (empty : d.entries = []) : (cs.foldl carryOut d).holds k p = true ↔ Stands cs k p := by
  rw [holds_iff, providers_foldl empty, mem_live]

theorem providers_carryOut_of_ne (h : c.kind ≠ k) : (c.carryOut d).providers k = d.providers k := by
  cases c with
  | register k' p   => rw [carryOut, Directory.providers_register, if_neg fun he => h he.symm]
  | unregister k' p => rw [carryOut, Directory.providers_unregister, if_neg fun he => h he.symm]

theorem active_foldl_of_ne (h : ∀ c ∈ cs, c.kind ≠ k) : (cs.foldl carryOut d).active k = d.active k := by
  induction cs generalizing d with
  | nil => rfl
  | cons c cs ih =>
    have first : (c.carryOut d).active k = d.active k := by
      rw [Directory.active, providers_carryOut_of_ne (h c (.head cs)), Directory.active]
    rw [List.foldl_cons, ih fun c hc => h c (.tail _ hc), first]

theorem bus_carryOut (c : Call) (d : Directory) : (c.carryOut d).bus = d.bus := by
  cases c <;> rfl

theorem unregister_of_not_holds (h : d.holds k p = false) : d.unregister k p = d := by
  have kept : d.entries.filter (· ≠ (k, p)) = d.entries := by
    rw [List.filter_eq_self]
    intro e he
    simp only [Directory.holds, List.contains_eq_mem, decide_eq_false_iff_not] at h
    exact decide_eq_true fun heq => h (heq ▸ he)
  rw [Directory.unregister, kept]

end Call
end Chatline
