namespace Chatline.Line

-- A line format is text with positional slots: `%1$s` stands for the sender's shown name, `%2$s` for
-- the message, and `%%` for a percent sign. Any other percent sign stands for itself.
inductive Segment
  | text (s : List Char)
  | shownName
  | message
  deriving DecidableEq, Repr

namespace Segment

def fill (shown message : List Char) : Segment → List Char
  | text s    => s
  | shownName => shown
  | .message  => message

def encode : Segment → List Char
  | text s    => s.flatMap fun c => if c = '%' then ['%', '%'] else [c]
  | shownName => ['%', '1', '$', 's']
  | message   => ['%', '2', '$', 's']

end Segment

def push (c : Char) : List Segment → List Segment
  | .text s :: segs => .text (c :: s) :: segs
  | segs            => .text [c] :: segs

def segments : List Char → List Segment
  | '%' :: '1' :: '$' :: 's' :: cs => .shownName :: segments cs
  | '%' :: '2' :: '$' :: 's' :: cs => .message :: segments cs
  | '%' :: '%' :: cs               => push '%' (segments cs)
  | c :: cs                        => push c (segments cs)
  | []                             => []

def encode (segs : List Segment) : List Char :=
  segs.flatMap Segment.encode

def fill (shown message : List Char) (segs : List Segment) : List Char :=
  segs.flatMap (Segment.fill shown message)

def render (format shown message : String) : String :=
  .ofList (fill shown.toList message.toList (segments format.toList))

theorem fill_push (shown message : List Char) (c : Char) (segs : List Segment) :
    fill shown message (push c segs) = c :: fill shown message segs := by
  unfold push
  split <;> simp [fill, Segment.fill]

end Chatline.Line
