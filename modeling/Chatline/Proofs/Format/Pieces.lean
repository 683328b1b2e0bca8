import Chatline.Line
import Chatline.Proofs.Color
import Chatline.Proofs.Text.Replace
import Chatline.Template

namespace Chatline

namespace Placeholder

def opening : Char := '\x7b'

def inner (p : Placeholder) : List Char :=
  p.spelling.toList.tail

theorem spelling_eq (p : Placeholder) : p.spelling.toList = opening :: p.inner := by
  cases p <;> rfl

theorem opening_not_mem_inner (p : Placeholder) : opening ∉ p.inner := by
  cases p <;> decide

theorem percent_not_mem_spelling (p : Placeholder) : '%' ∉ p.spelling.toList := by
  cases p <;> decide

theorem isPrefixOf_spelling {p q : Placeholder} (h : q ≠ p) (w : List Char) :
    p.spelling.toList.isPrefixOf (q.spelling.toList ++ w) = false := by
  cases p <;> cases q <;> first | contradiction | rfl

variable {p q : Placeholder} {v w : List Char}

theorem replace_literal {s : List Char} (h : opening ∉ s) :
    Text.replace p.spelling.toList v (s ++ w) = s ++ Text.replace p.spelling.toList v w := by
  rw [p.spelling_eq]
  exact Text.replace_append_of_not_mem h

theorem replace_self :
    Text.replace p.spelling.toList v (p.spelling.toList ++ w) =
      v ++ Text.replace p.spelling.toList v w := by
  rw [p.spelling_eq]
  exact Text.replace_pattern_append

theorem replace_other (h : q ≠ p) :
    Text.replace p.spelling.toList v (q.spelling.toList ++ w) =
      q.spelling.toList ++ Text.replace p.spelling.toList v w := by
  have hp := isPrefixOf_spelling h w
  rw [p.spelling_eq, q.spelling_eq] at hp ⊢
  exact Text.replace_other_append hp q.opening_not_mem_inner

end Placeholder

open Placeholder (opening)

-- A format as its author sees it: literal text and placeholders.
inductive Piece
  | text (s : List Char)
  | hole (p : Placeholder)

namespace Piece

def source : Piece → List Char
  | text s => s
  | hole p => p.spelling.toList

def join (ps : List Piece) : List Char :=
  ps.flatMap source

def put (p : Placeholder) (value : Option (List Char)) : Piece → Piece
  | text s => text s
  | hole q => if q = p then (value.map text).getD (hole q) else hole q

def Closed (ps : List Piece) : Prop :=
  ∀ s, text s ∈ ps → opening ∉ s

theorem join_cons (q : Piece) (ps : List Piece) : join (q :: ps) = q.source ++ join ps :=
  List.flatMap_cons

theorem Closed.tail {q : Piece} {ps : List Piece} (h : Closed (q :: ps)) : Closed ps :=
  fun s hs => h s (.tail q hs)

theorem Closed.put {ps : List Piece} {p : Placeholder} {value : Option (List Char)} (h : Closed ps)
    (hv : ∀ v ∈ value, opening ∉ v) : Closed (ps.map (put p value)) := by
  intro s hs
  have ⟨q, hq, he⟩ := List.mem_map.mp hs
  cases q with
  | text t =>
    cases he
    exact h s hq
  | hole q =>
    simp only [Piece.put] at he
    split at he
    case isFalse => cases he
    case isTrue =>
      cases value with
      | none => cases he
      | some v =>
        cases he
        exact hv s rfl

theorem replace_join {ps : List Piece} (h : Closed ps) (p : Placeholder) (v : List Char) :
    Text.replace p.spelling.toList v (join ps) = join (ps.map (put p (some v))) := by
  induction ps with
  | nil => rfl
  | cons q ps ih =>
    have ih := ih h.tail
    rw [List.map_cons, join_cons, join_cons, ← ih]
    cases q with
    | text s => exact Placeholder.replace_literal (h s (.head ps))
    | hole q =>
      by_cases hq : q = p
      case pos =>
        subst hq
        simpa [put, source] using Placeholder.replace_self
      case neg => simpa [put, source, hq] using Placeholder.replace_other hq

theorem replace_ofList_join {ps : List Piece} (h : Closed ps) (p : Placeholder) (v : String) :
    p.replace v (.ofList (join ps)) = .ofList (join (ps.map (put p (some v.toList)))) := by
  rw [Placeholder.replace, String.toList_ofList, replace_join h]

theorem join_put_none (ps : List Piece) (p : Placeholder) : join (ps.map (put p none)) = join ps := by
  induction ps with
  | nil => rfl
  | cons q ps ih =>
    simp only [List.map_cons, join_cons, ih]
    cases q <;> simp [put]

def Apart : List Piece → Prop
  | text _ :: text _ :: _ => False
  | _ :: ps               => Apart ps
  | []                    => True

theorem Apart.tail {q : Piece} {ps : List Piece} (h : Apart (q :: ps)) : Apart ps := by
  unfold Apart at h
  split at h
  case h_1 => contradiction
  case h_2 he =>
    cases he
    exact h
  case h_3 he => cases he

def slotted : Piece → Piece :=
  put .message (some ['%', '2', '$', 's']) ∘ put .displayName (some ['%', '1', '$', 's'])

def compiled : Piece → Piece
  | text s => text (Color.colorize s)
  | hole p => slotted (hole p)

theorem slotted_hole (p : Placeholder) :
    Color.marker ∉ (slotted (hole p)).source ∧ Color.Calm (slotted (hole p)).source ∧
      (slotted (hole p)).source ≠ [] := by
  cases p <;> simp [slotted, put, source, Color.Calm, Placeholder.spelling] <;> decide

theorem calm_join {s : List Char} {ps : List Piece} (h : Apart (text s :: ps)) :
    Color.Calm (join (ps.map slotted)) := by
  cases ps with
  | nil => exact Color.calm_nil
  | cons q ps =>
    cases q with
    | text t => contradiction
    | hole p =>
      have ⟨_, hc, hn⟩ := slotted_hole p
      rw [List.map_cons, join_cons, Color.Calm, List.head?_append]
      simpa [Color.Calm, List.head?_eq_some_head hn] using hc

theorem colorize_join {ps : List Piece} (h : Apart ps) :
    Color.colorize (join (ps.map slotted)) = join (ps.map compiled) := by
  induction ps with
  | nil => exact Color.colorize_nil
  | cons q ps ih =>
    have ih := ih h.tail
    rw [List.map_cons, join_cons, List.map_cons, join_cons, ← ih]
    cases q with
    | text s => exact Color.colorize_append (calm_join h)
    | hole p => exact Color.colorize_append_of_not_mem (slotted_hole p).left

end Piece
end Chatline
