namespace Chatline.Text

-- Code points from `first` to `last`, every `step`th of which has its form in the other case at the same
-- distance `shift`.
structure CaseRun where
  first : Nat
  last  : Nat
  step  : Nat
  shift : Int

def CaseRun.covers (r : CaseRun) (n : Nat) : Bool :=
  r.first ≤ n && n ≤ r.last && (n - r.first) % r.step == 0

def CaseRun.map? (runs : List CaseRun) (c : Char) : Option Char :=
  (runs.find? (·.covers c.toNat)).map fun r => .ofNat ((c.toNat : Int) + r.shift).toNat

end Chatline.Text
