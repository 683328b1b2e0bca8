namespace Chatline.Color

-- Configured text marks a color or style by `&` and a code. Clients expect the section sign in place
-- of the marker.
def marker : Char := '&'
def sign : Char := '§'

def codes : List Char := "0123456789AaBbCcDdEeFfKkLlMmNnOoRrXx".toList

def isCode (c : Char) : Bool :=
  codes.contains c

def isHexDigit (c : Char) : Bool :=
  ('0' ≤ c && c ≤ '9') || ('a' ≤ c && c ≤ 'f') || ('A' ≤ c && c ≤ 'F')

def hexColor? : List Char → Option (List Char × List Char)
  | '&' :: '#' :: a :: b :: c :: d :: e :: f :: rest =>
    if [a, b, c, d, e, f].all isHexDigit then some ([a, b, c, d, e, f], rest) else none
  | _ => none

theorem hexColor?_length {s digits rest : List Char} (h : hexColor? s = some (digits, rest)) :
    s.length = rest.length + 8 := by
  unfold hexColor? at h
  split at h <;> simp at h
  simp [← h.right.right]

def spread (digits : List Char) : List Char :=
  ('x' :: digits).flatMap ([marker, ·])

def expandHex (s : List Char) : List Char :=
  match s with
  | []      => []
  | c :: cs =>
    match _h : hexColor? (c :: cs) with
    | some (digits, rest) => spread digits ++ expandHex rest
    | none                => c :: expandHex cs
termination_by s.length
decreasing_by
  · have := hexColor?_length _h; omega
  · simp

def marks (mark cells : List Char) (i : Nat) : Bool :=
  cells[i]?.any ([·] == mark) && cells[i + 1]?.any isCode

-- Overwrites every mark that a code follows by the sign, one place after the other. Each place is looked at in the
-- text as the places before it have left it. The last one has nothing behind it.
def translateText (mark s : List Char) : List Char :=
  (List.range (s.length - 1)).foldl (fun cells i => if marks mark cells i then cells.set i sign else cells) s

def translate (m : Char) : List Char → List Char
  | c :: d :: cs => (if c = m ∧ isCode d then sign else c) :: translate m (d :: cs)
  | s            => s

def colorize (s : List Char) : List Char :=
  translateText [marker] (expandHex s)

def colorizeValue : Option String → String
  | none   => "null"
  | some s => .ofList (colorize s.toList)

def strip : List Char → List Char
  | c :: d :: cs => if c = sign ∧ isCode d then strip cs else c :: strip (d :: cs)
  | s            => s

theorem sign_not_code : isCode sign = false := by
  decide

theorem marker_not_code : isCode marker = false := by
  decide

end Chatline.Color
