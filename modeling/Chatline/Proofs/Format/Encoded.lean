import Chatline.Chat
import Chatline.Proofs.Format.Filled

namespace Chatline

namespace Line

def Segment.before : Segment → List Segment → List Segment
  | text s, segs => s.foldr push segs
  | q,      segs => q :: segs

variable {shown message : List Char}

theorem segments_encode_text (s w : List Char) :
    segments ((Segment.text s).encode ++ w) = s.foldr push (segments w) := by
  induction s with
  | nil => rfl
  | cons c s ih =>
    rw [List.foldr_cons, ← ih]
    by_cases hc : c = '%'
    case pos =>
      subst hc
      rfl
    case neg =>
      have single : (Segment.text (c :: s)).encode = c :: (Segment.text s).encode := by simp [Segment.encode, hc]
      rw [single, List.cons_append, segments_cons_of_ne hc]

theorem segments_encode_append (q : Segment) (w : List Char) : segments (q.encode ++ w) = q.before (segments w) := by
  cases q with
  | text s    => exact segments_encode_text s w
  | shownName => rfl
  | message   => rfl

theorem segments_encode (segs : List Segment) : segments (encode segs) = segs.foldr Segment.before [] := by
  induction segs with
  | nil           => rfl
  | cons q segs ih => exact (segments_encode_append q (encode segs)).trans (congrArg q.before ih)

theorem fill_foldr_push (s : List Char) (segs : List Segment) :
    fill shown message (s.foldr push segs) = s ++ fill shown message segs := by
  induction s with
  | nil => rfl
  | cons c s ih => rw [List.foldr_cons, fill_push, ih, List.cons_append]

theorem fill_before (q : Segment) (segs : List Segment) :
    fill shown message (q.before segs) = q.fill shown message ++ fill shown message segs := by
  cases q with
  | text s    => exact fill_foldr_push s segs
  | shownName => rfl
  | message   => rfl

theorem fill_segments_encode (segs : List Segment) :
    fill shown message (segments (encode segs)) = fill shown message segs := by
  rw [segments_encode]
  induction segs with
  | nil            => rfl
  | cons q segs ih => rw [List.foldr_cons, fill_before, ih, fill, fill, List.flatMap_cons]

end Line

namespace ChatMessage

-- Whatever is to be said with literal texts, names and messages can be encoded as a format: the line that is
-- delivered has all of them, one after the other, as they are. A text without slots comes back if its percent
-- signs have been doubled.
theorem render_encoded (m : ChatMessage) (segs : List Line.Segment) (s : String) :
    ({ m with format := .ofList (Line.encode segs) } : ChatMessage).render =
        .ofList (segs.flatMap (Line.Segment.fill m.player.shownName.toList m.body.toList)) ∧
      ({ m with format := .ofList (s.toList.flatMap fun c => if c = '%' then ['%', '%'] else [c]) } :
        ChatMessage).render = s := by
  have rendered (segs : List Line.Segment) : ({ m with format := .ofList (Line.encode segs) } : ChatMessage).render =
      .ofList (Line.fill m.player.shownName.toList m.body.toList segs) := by
    rw [render, Line.render_ofList, Line.fill_segments_encode]
  constructor
  case left => exact rendered segs
  case right =>
    have doubled := rendered [.text s.toList]
    simpa [Line.encode, Line.Segment.encode, Line.fill, Line.Segment.fill] using doubled

example : Line.encode [.text ['%'], .shownName] = "%%%1$s".toList := by
  decide

end ChatMessage
end Chatline
