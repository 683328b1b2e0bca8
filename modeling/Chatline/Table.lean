namespace Chatline

-- A finite map whose entries are listed in the order in which their keys were first given a value.
structure Table (κ α : Type) where
  entries : List (κ × α)

namespace Table

variable {κ α β : Type} [DecidableEq κ]

def empty : Table κ α :=
  ⟨[]⟩

instance : Inhabited (Table κ α) :=
  ⟨empty⟩

def get? (t : Table κ α) (k : κ) : Option α :=
  (t.entries.find? (·.1 = k)).map (·.2)

def setEntry (k : κ) (a : α) : List (κ × α) → List (κ × α)
  | []             => [(k, a)]
  | (k', a') :: es => if k' = k then (k, a) :: es else (k', a') :: setEntry k a es

def set (t : Table κ α) (k : κ) (a : α) : Table κ α :=
  ⟨setEntry k a t.entries⟩

def ofList (entries : List (κ × α)) : Table κ α :=
  entries.foldl (fun t (k, a) => t.set k a) empty

theorem find?_setEntry (k k' : κ) (a : α) (es : List (κ × α)) :
    (setEntry k a es).find? (·.1 = k') = if k' = k then some (k, a) else es.find? (·.1 = k') := by
  induction es with
  | nil => by_cases h : k' = k <;> simp [setEntry, h, eq_comm]
  | cons e es ih =>
    by_cases h₁ : e.1 = k <;> by_cases h₂ : k' = k <;> by_cases h₃ : e.1 = k' <;>
      simp_all [setEntry, eq_comm]

theorem get?_set (t : Table κ α) (k k' : κ) (a : α) :
    (t.set k a).get? k' = if k' = k then some a else t.get? k' := by
  simp only [get?, set, find?_setEntry]
  split <;> rfl

theorem get?_set_self (t : Table κ α) (k : κ) (a : α) : (t.set k a).get? k = some a := by
  simp [get?_set]

theorem get?_set_ne (t : Table κ α) {k k' : κ} (h : k' ≠ k) (a : α) :
    (t.set k a).get? k' = t.get? k' := by
  simp [get?_set, h]

theorem get?_empty (k : κ) : (empty : Table κ α).get? k = none :=
  rfl

end Table
end Chatline
