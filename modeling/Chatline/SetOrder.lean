import Chatline.Binary64

namespace Chatline.SetOrder

-- Numbers are hashed by their remainder modulo this prime, so that equal numbers have equal hashes, be they
-- integers or not. Modulo this prime, the 61st power of two is one.
def modulus : Nat := 2305843009213693951

def wordCount : Nat := 18446744073709551616

def word (negative : Bool) (n : Nat) : Nat :=
  if !negative || n = 0 then n else if n = 1 then wordCount - 2 else wordCount - n

def ofInt (i : Int) : Nat :=
  word (i < 0) (i.natAbs % modulus)

def ofFloat? : Binary64 → Option Nat
  | .finite negative m e => some (word negative (((m % modulus) <<< (e % 61).toNat) % modulus))
  | .infinite negative   => some (word negative 314159)
  | .nan                 => none

def slotCount (members : Nat) : Nat :=
  if members < 5 then 8 else 1 <<< ((2 * members).log2 + 1)

-- The first free slot. Up to nine slots behind each one that is tried are tried too, unless they are not
-- there. The whole of the hash has its part in where it is tried next.
def freeSlot (isTaken : Nat → Bool) (count : Nat) : (fuel : Nat) → (rest slot : Nat) → Option Nat
  | 0,        _,    _    => none
  | fuel + 1, rest, slot =>
    let neighbours := if slot + 9 < count then 9 else 0
    match (List.range (neighbours + 1)).find? fun n => !isTaken (slot + n) with
    | some n => some (slot + n)
    | none   => freeSlot isTaken count fuel (rest / 32) ((5 * slot + 1 + rest / 32) % count)

def place {α : Type} (slots : Array (Option α)) (hash : Nat) (a : α) : Array (Option α) :=
  let isTaken (slot : Nat) : Bool := ((slots[slot]?).join).isSome
  match freeSlot isTaken slots.size (slots.size + 64) hash (hash % slots.size) with
  | some slot => slots.setIfInBounds slot (some a)
  | none      => slots

def listed {α : Type} (members : List (Nat × α)) : List α :=
  let empty : Array (Option α) := .replicate (slotCount members.length) none
  (members.foldl (fun slots (hash, a) => place slots hash a) empty).toList.filterMap id

end Chatline.SetOrder
