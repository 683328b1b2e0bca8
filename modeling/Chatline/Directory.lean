import Chatline.Handle
import Chatline.Provider

namespace Chatline

-- The providers that are registered, in the order of registration, and the bus on which every change
-- is announced.
structure Directory where
  bus     : BusId
  entries : List (Kind × ProviderId)
  deriving Inhabited

namespace Directory

def registered : String := "service:registered"
def unregistered : String := "service:unregistered"
def source : String := "services"

def providers (d : Directory) (k : Kind) : List ProviderId :=
  (d.entries.filter (·.1 = k)).map (·.2)

def active (d : Directory) (k : Kind) : Option ProviderId :=
  (d.providers k).getLast?

def register (d : Directory) (k : Kind) (p : ProviderId) : Directory :=
  { d with entries := d.entries ++ [(k, p)] }

def unregister (d : Directory) (k : Kind) (p : ProviderId) : Directory :=
  { d with entries := d.entries.filter (· ≠ (k, p)) }

def holds (d : Directory) (k : Kind) (p : ProviderId) : Bool :=
  d.entries.contains (k, p)

theorem providers_register (d : Directory) (k k' : Kind) (p : ProviderId) :
    (d.register k p).providers k' = if k' = k then d.providers k' ++ [p] else d.providers k' := by
  by_cases h : k' = k <;> simp [providers, register, List.filter_append, h, eq_comm]

theorem providers_unregister (d : Directory) (k k' : Kind) (p : ProviderId) :
    (d.unregister k p).providers k' =
      if k' = k then (d.providers k').filter (· ≠ p) else d.providers k' := by
  simp only [providers, unregister, List.filter_filter, List.filter_map]
  by_cases h : k' = k
  · subst h
    simp only [if_true]
    congr 1
    apply List.filter_congr
    rintro ⟨k₁, p₁⟩ _
    by_cases hk : k₁ = k' <;> simp [hk]
  · simp only [if_neg h]
    congr 1
    apply List.filter_congr
    rintro ⟨k₁, p₁⟩ _
    by_cases hk : k₁ = k' <;> simp [hk, h]

theorem active_register (d : Directory) (k : Kind) (p : ProviderId) :
    (d.register k p).active k = some p := by
  simp [active, providers_register]

end Directory
end Chatline
