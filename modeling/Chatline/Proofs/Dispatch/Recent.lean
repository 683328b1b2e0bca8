import Chatline.Proofs.Dispatch.Numbering

namespace Chatline

variable {ξ σ α ω : Type}

namespace Bus

theorem recent_zero (bus : Bus ω) : bus.recent (some 0) = bus.recent none :=
  rfl

theorem recent_suffix (bus : Bus ω) (limit : Option Int) : bus.recent limit <:+ bus.recent none := by
  cases limit with
  | none       => exact List.suffix_refl _
  | some limit =>
    simp only [recent]
    split <;> exact List.drop_suffix _ _

namespace Counted

variable {bus : Bus ω} {es : List Envelope} {limit : Nat}

theorem recent_of_pos (hc : bus.Counted es) (pos : 0 < limit) :
    bus.recent (some limit) = es.drop (es.length - min limit (min es.length 1000)) := by
  have skipped : es.length - capacity + (es.length - (es.length - capacity) - limit) =
      es.length - min limit (min es.length 1000) := by
    simp only [capacity]
    omega
  rw [Bus.recent, if_pos (by omega), hc.history, latest, List.drop_drop, List.length_drop, Int.toNat_natCast, skipped]

theorem recent_limited_iff (hc : bus.Counted es) :
    (bus.recent (some limit)).length ≤ limit ↔ limit ≠ 0 ∨ es = [] := by
  by_cases pos : 0 < limit
  case pos =>
    rw [hc.recent_of_pos pos, List.length_drop]
    refine iff_of_true ?_ (.inl (by omega))
    omega
  case neg =>
    obtain rfl : limit = 0 := by omega
    have kept : bus.recent (some ((0 : Nat) : Int)) = es.drop (es.length - capacity) := hc.history
    rw [kept, List.length_drop, ← List.length_eq_zero_iff]
    simp only [capacity]
    omega

theorem recent_newest_iff (hc : bus.Counted es) :
    bus.recent (some limit) = es.drop (es.length - min limit (min es.length 1000)) ↔ limit ≠ 0 ∨ es = [] := by
  by_cases pos : 0 < limit
  case pos => exact iff_of_true (hc.recent_of_pos pos) (.inl (by omega))
  case neg =>
    obtain rfl : limit = 0 := by omega
    rw [← hc.recent_limited_iff, Nat.zero_min, Nat.sub_zero, List.drop_length, Nat.le_zero, List.length_eq_zero_iff]

end Counted
end Bus

-- At every moment of a run, whatever is or has been going on, a limit of how many events are to be looked up is
-- kept to unless it is zero: then everything is looked up that is remembered. With any other limit it is the newest
-- events that are looked up, as many as there are and as the limit allows, and always the oldest of them first.
theorem Behaviour.recent_limited_unless_zero (behave : Behaviour ξ σ) (files : FileTree) (environment : Environment)
    (memory : σ) (p : Program ξ σ α) (n : Nat) {earlier later : List (Deed ξ × Host ξ σ)} {d : Deed ξ} {k : Host ξ σ}
    (moment : behave.annals n p (.new files environment memory) = earlier ++ (d, k) :: later) (b : BusId)
    (limit : Nat) :
    let es := Deed.sent b earlier
    (k.bus b).recent none = es.drop (es.length - min es.length 1000) ∧
      (k.bus b).recent (some limit) <:+ (k.bus b).recent none ∧
      ((k.bus b).recent (some limit) = es.drop (es.length - min limit (min es.length 1000)) ↔ limit ≠ 0 ∨ es = []) ∧
      (((k.bus b).recent (some limit)).length ≤ limit ↔ limit ≠ 0 ∨ es = []) ∧
      (k.bus b).recent (some 0) = (k.bus b).recent none := by
  intro es
  have hc : (k.bus b).Counted es := (Host.Timeline.moment moment).counted b
  have ⟨remembered, _⟩ := hc.recent (Deed.sequence_sent b earlier)
  exact ⟨remembered, (k.bus b).recent_suffix _, hc.recent_newest_iff, hc.recent_limited_iff, (k.bus b).recent_zero⟩

theorem Behaviour.recent_limited_unless_zero_echo :
    let annals := Program.echo.annals 2 .call (.new .bare {} ())
    ∃ k, annals = annals.take 9 ++ (.look, k) :: annals.drop 10 ∧
      (k.bus ⟨0⟩).recent (some 1) = [⟨"echo", "guest", 2⟩] := by
  intro annals
  have limited := Behaviour.recent_limited_unless_zero Program.echo .bare {} () .call 2
    (show annals = annals.take 9 ++ (.look, _) :: annals.drop 10 from rfl) ⟨0⟩ 1
  exact ⟨_, rfl, limited.right.right.left.mpr (.inl (by decide))⟩

theorem Behaviour.recent_zero_after_event :
    let k := (Host.perform Program.echo 1 (.emit ⟨0⟩ "t" "host" (.ofEntries .empty)) (.new .bare {} ())).2
    (k.bus ⟨0⟩).recent (some 0) = [⟨"t", "host", 1⟩] ∧ ¬((k.bus ⟨0⟩).recent (some 0)).length ≤ 0 := by
  decide

end Chatline
