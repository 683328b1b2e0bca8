namespace Chatline.Text

-- A code point of Unicode. Surrogates are code points that stand for no character. They come up where code
-- points are spelled by their numbers.
inductive CodePoint
  | char (c : Char)
  | surrogate (offset : Fin 2048)
  deriving DecidableEq, Repr

namespace CodePoint

def number : CodePoint → Nat
  | char c           => c.toNat
  | surrogate offset => 0xd800 + offset

def ofNumber? (n : Nat) : Option CodePoint :=
  if h : 0xd800 ≤ n ∧ n ≤ 0xdfff then some (surrogate ⟨n - 0xd800, by omega⟩)
  else if n ≤ 0x10ffff then some (char (.ofNat n))
  else none

def char? : CodePoint → Option Char
  | char c      => some c
  | surrogate _ => none

end CodePoint

def points (s : String) : List CodePoint :=
  s.toList.map .char

-- The characters that code points stand for. Two surrogates that make a pair stand for one character, and
-- a surrogate on its own is shown as a replacement character. `high` is the first half of a pair, as long
-- as the second one may follow.
def joined (ps : List CodePoint) : List Char :=
  go none ps
where
  alone : Option Nat → List Char
    | none   => []
    | some _ => ['\ufffd']
  go (high : Option Nat) : List CodePoint → List Char
    | []                     => alone high
    | .char c :: ps          => alone high ++ c :: go none ps
    | .surrogate offset :: ps =>
      if offset.val < 1024 then alone high ++ go (some offset.val) ps
      else
        match high with
        | some h => .ofNat (0x10000 + 1024 * h + (offset.val - 1024)) :: go none ps
        | none   => '\ufffd' :: go none ps

theorem joined_points (s : String) : joined (points s) = s.toList := by
  unfold points joined
  induction s.toList with
  | nil => rfl
  | cons c cs ih => simpa [joined.go, joined.alone] using ih

end Chatline.Text
