import Chatline.Failure

namespace Chatline

-- A computation that asks its surroundings for values. It yields the questions asked, in order, and
-- either an answer or the failure that ended it. A failure is the last thing that happens.
structure Inquiry (κ : Type) (α : Type) where
  asked   : List κ
  outcome : Except Failure α

namespace Inquiry

variable {κ : Type} {α β γ : Type}

protected def pure (a : α) : Inquiry κ α :=
  ⟨[], .ok a⟩

protected def bind (i : Inquiry κ α) (f : α → Inquiry κ β) : Inquiry κ β :=
  match i.outcome with
  | .ok a    => ⟨i.asked ++ (f a).asked, (f a).outcome⟩
  | .error e => ⟨i.asked, .error e⟩

instance : Monad (Inquiry κ) where
  pure := Inquiry.pure
  bind := Inquiry.bind

def ask (question : κ) (outcome : Except Failure α) : Inquiry κ α :=
  ⟨[question], outcome⟩

theorem pure_def (a : α) : (pure a : Inquiry κ α) = ⟨[], .ok a⟩ :=
  rfl

theorem bind_ok {i : Inquiry κ α} {a : α} (h : i.outcome = .ok a) (f : α → Inquiry κ β) :
    i >>= f = ⟨i.asked ++ (f a).asked, (f a).outcome⟩ := by
  simp [Bind.bind, Inquiry.bind, h]

theorem bind_error {i : Inquiry κ α} {e : Failure} (h : i.outcome = .error e) (f : α → Inquiry κ β) :
    i >>= f = ⟨i.asked, .error e⟩ := by
  simp [Bind.bind, Inquiry.bind, h]

theorem pure_bind (a : α) (f : α → Inquiry κ β) : (pure a : Inquiry κ α) >>= f = f a := by
  simp [pure_def, Bind.bind, Inquiry.bind]

theorem bind_assoc (i : Inquiry κ α) (f : α → Inquiry κ β) (g : β → Inquiry κ γ) :
    i >>= f >>= g = i >>= fun a => f a >>= g := by
  simp only [Bind.bind, Inquiry.bind]
  cases i.outcome with
  | error e => rfl
  | ok a => cases h : (f a).outcome <;> simp [h]

end Inquiry
end Chatline
