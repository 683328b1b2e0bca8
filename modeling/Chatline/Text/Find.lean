namespace Chatline.Text

def occurs (pat : List Char) : List Char → Bool
  | []      => pat.isPrefixOf []
  | c :: cs => pat.isPrefixOf (c :: cs) || occurs pat cs

-- Literal replacement. Occurrences are found from left to right and do not overlap: after a match
-- the rest of the matched characters is skipped, so `new` itself is never searched. The counter says
-- how many characters of the current match are still to be skipped.
def replace (pat new : List Char) (s : List Char) : List Char :=
  go 0 s
where
  go : Nat → List Char → List Char
    | _,     []      => []
    | k + 1, _ :: cs => go k cs
    | 0,     c :: cs =>
      if pat.isPrefixOf (c :: cs) then new ++ go (pat.length - 1) cs else c :: go 0 cs

theorem replace_nil (pat new : List Char) : replace pat new [] = [] :=
  rfl

theorem replace.go_of_not_occurs {pat new s : List Char} (h : occurs pat s = false) :
    go pat new 0 s = s := by
  induction s with
  | nil => rfl
  | cons c cs ih =>
    simp only [occurs, Bool.or_eq_false_iff] at h
    simp [go, h.left, ih h.right]

theorem replace_of_not_occurs {pat new s : List Char} (h : occurs pat s = false) :
    replace pat new s = s :=
  replace.go_of_not_occurs h

theorem replace.go_skip (pat new : List Char) (s : List Char) (k : Nat) :
    go pat new k s = go pat new 0 (s.drop k) := by
  induction s generalizing k with
  | nil => cases k <;> rfl
  | cons c cs ih => cases k with
    | zero   => rfl
    | succ k => simp [go, ih]

end Chatline.Text
