import Chatline.Bindings
import Chatline.Proofs.Format.Filled
import Chatline.Proofs.Format.Settled

namespace Chatline

namespace Line

def slots : List (List Char) :=
  [['%', '1', '$', 's'], ['%', '2', '$', 's'], ['%', '%']]

def Opens (s : List Char) : Prop :=
  ∃ p ∈ slots, p <+: s

-- No slot begins in `u` if `w` comes behind it, wherever it ends.
def Clear : (u w : List Char) → Prop
  | [],     _ => True
  | c :: u, w => ¬ Opens (c :: (u ++ w)) ∧ Clear u w

instance decidableOpens (s : List Char) : Decidable (Opens s) :=
  inferInstanceAs (Decidable (∃ p ∈ slots, p <+: s))

instance decidableClear : (u w : List Char) → Decidable (Clear u w)
  | [],     _ => isTrue trivial
  | c :: u, w =>
    have := decidableClear u w
    inferInstanceAs (Decidable (¬ Opens (c :: (u ++ w)) ∧ Clear u w))

variable {c : Char} {s u w e shown message : List Char}

theorem opens_iff : Opens s ↔
    (∃ cs, s = '%' :: '1' :: '$' :: 's' :: cs) ∨ (∃ cs, s = '%' :: '2' :: '$' :: 's' :: cs) ∨
      ∃ cs, s = '%' :: '%' :: cs := by
  simp [Opens, slots, List.IsPrefix, eq_comm]

theorem clear_of_not_mem (h : '%' ∉ u) : Clear u w := by
  induction u with
  | nil => trivial
  | cons c u ih =>
    have hc : c ≠ '%' := Ne.symm (List.ne_of_not_mem_cons h)
    have plain : ¬ Opens (c :: (u ++ w)) := by
      intro ho
      rcases opens_iff.mp ho with ⟨_, he⟩ | ⟨_, he⟩ | ⟨_, he⟩
      all_goals exact hc (List.cons.inj he).left
    exact ⟨plain, ih (List.not_mem_of_not_mem_cons h)⟩

theorem segments_cons_of_not_opens (h : ¬ Opens (c :: s)) : segments (c :: s) = push c (segments s) := by
  rw [opens_iff, not_or, not_or] at h
  have ⟨h₁, h₂, h₃⟩ := h
  rw [segments]
  case x_1 => exact fun cs hc hs => h₁ ⟨cs, by rw [hc, hs]⟩
  case x_2 => exact fun cs hc hs => h₂ ⟨cs, by rw [hc, hs]⟩
  case x_3 => exact fun cs hc hs => h₃ ⟨cs, by rw [hc, hs]⟩

theorem fill_append_of_clear (h : Clear u w) :
    fill shown message (segments (u ++ w)) = u ++ fill shown message (segments w) := by
  induction u with
  | nil => rfl
  | cons c u ih =>
    rw [List.cons_append, segments_cons_of_not_opens h.left, fill_push, ih h.right, List.cons_append]

theorem fill_segments_shownName (s : List Char) :
    fill shown message (segments ('%' :: '1' :: '$' :: 's' :: s)) = shown ++ fill shown message (segments s) :=
  rfl

theorem fill_segments_message (s : List Char) :
    fill shown message (segments ('%' :: '2' :: '$' :: 's' :: s)) = message ++ fill shown message (segments s) :=
  rfl

-- A value that is as long as a slot and cannot be taken for literal text of one.
def sample : List Char := ['n', 'a', 'm', 'e']

theorem length_fill_sample_le (s : List Char) : (fill sample sample (segments s)).length ≤ s.length := by
  fun_induction segments s with
  | case1 cs ih => exact Nat.add_le_add_right ih 4
  | case2 cs ih => exact Nat.add_le_add_right ih 4
  | case3 cs ih =>
    rw [fill_push]
    exact Nat.le_succ_of_le (Nat.succ_le_succ ih)
  | case4 c cs _ _ _ ih =>
    rw [fill_push]
    exact Nat.succ_le_succ ih
  | case5 => exact Nat.le_refl _

theorem clear_of_fill (h : fill sample sample (segments (u ++ w)) = u ++ e) (he : e.length = w.length) :
    Clear u w ∧ fill sample sample (segments w) = e := by
  induction u with
  | nil => exact ⟨trivial, h⟩
  | cons c u ih =>
    rw [List.cons_append, List.cons_append] at h
    by_cases ho : Opens (c :: (u ++ w))
    case neg =>
      rw [segments_cons_of_not_opens ho, fill_push] at h
      have ⟨hc, hw⟩ := ih (List.cons.inj h).right
      exact ⟨⟨ho, hc⟩, hw⟩
    case pos =>
      exfalso
      -- A slot would be given away by what is put in its place, and an escape by the length of the line.
      rcases opens_iff.mp ho with ⟨cs, ht⟩ | ⟨cs, ht⟩ | ⟨cs, ht⟩
      case inl =>
        have hc : c = '%' := (List.cons.inj ht).left
        rw [ht, hc, fill_segments_shownName] at h
        exact absurd (List.cons.inj h).left (by decide)
      case inr.inl =>
        have hc : c = '%' := (List.cons.inj ht).left
        rw [ht, hc, fill_segments_message] at h
        exact absurd (List.cons.inj h).left (by decide)
      case inr.inr =>
        have shorter := length_fill_sample_le cs
        have long := congrArg List.length ht
        rw [ht, segments, fill_push] at h
        have same := congrArg List.length h
        simp only [List.length_cons, List.length_append] at long same
        omega

end Line

namespace Piece

def expected (name shown message : List Char) : Piece → List Char
  | text s            => s
  | hole .name        => name
  | hole .displayName => shown
  | hole .message     => message
  | hole p            => p.spelling.toList

def named (name : List Char) : Piece → Piece :=
  put .name (some name) ∘ slotted

-- No slot begins in a name where it has been put in.
def Clear (name : List Char) : List Piece → Prop
  | []      => True
  | q :: ps => (q = hole .name → Line.Clear name (join (ps.map (named name)))) ∧ Clear name ps

def Colorless (ps : List Piece) : Prop :=
  ∀ s, text s ∈ ps → Inert s ∧ Color.marker ∉ s

variable {name shown message : List Char} {q : Piece} {ps : List Piece} {u w : List Char}

theorem Colorless.tail (h : Colorless (q :: ps)) : Colorless ps :=
  fun s hs => h s (.tail q hs)

theorem fill_named (hl : ∀ s, q = text s → '%' ∉ s) (hn : q ≠ hole .name) :
    Line.fill shown message (Line.segments ((named name q).source ++ w)) =
      q.expected name shown message ++ Line.fill shown message (Line.segments w) := by
  cases q with
  | text s => exact Line.fill_append_of_not_mem (hl s rfl)
  | hole p =>
    cases p
    case name => contradiction
    case displayName => rfl
    case message => rfl
    all_goals exact Line.fill_append_of_not_mem (Placeholder.percent_not_mem_spelling _)

theorem length_expected_sample (q : Piece) :
    (q.expected name Line.sample Line.sample).length = (named name q).source.length := by
  cases q with
  | text s => rfl
  | hole p => cases p <;> rfl

theorem length_flatMap_expected (ps : List Piece) :
    (ps.flatMap (expected name Line.sample Line.sample)).length = (join (ps.map (named name))).length := by
  simp [join, List.length_flatMap, List.map_map, Function.comp_def, length_expected_sample]

theorem fill_join_named (hl : Colorless ps) (hc : Clear name ps) :
    Line.fill shown message (Line.segments (join (ps.map (named name)))) =
      ps.flatMap (expected name shown message) := by
  induction ps with
  | nil => rfl
  | cons q ps ih =>
    rw [List.map_cons, join_cons, List.flatMap_cons]
    by_cases hn : q = hole .name
    case pos =>
      subst hn
      have source : (named name (hole .name)).source = name := rfl
      rw [source, Line.fill_append_of_clear (hc.left rfl), ih hl.tail hc.right]
      rfl
    case neg =>
      have hq : ∀ s, q = text s → '%' ∉ s := fun s he => (hl s (he ▸ .head ps)).left.right
      rw [fill_named hq hn, ih hl.tail hc.right]

theorem clear_of_fill_sample (hl : Colorless ps)
    (h : Line.fill Line.sample Line.sample (Line.segments (join (ps.map (named name)))) =
      ps.flatMap (expected name Line.sample Line.sample)) : Clear name ps := by
  induction ps with
  | nil => trivial
  | cons q ps ih =>
    rw [List.map_cons, join_cons, List.flatMap_cons] at h
    by_cases hn : q = hole .name
    case pos =>
      subst hn
      have ⟨hc, hr⟩ := Line.clear_of_fill h (length_flatMap_expected ps)
      exact ⟨fun _ => hc, ih hl.tail hr⟩
    case neg =>
      have hq : ∀ s, q = text s → '%' ∉ s := fun s he => (hl s (he ▸ .head ps)).left.right
      rw [fill_named hq hn] at h
      exact ⟨fun he => absurd he hn, ih hl.tail (List.append_cancel_left h)⟩

theorem clear_of_not_mem (h : '%' ∉ name) (ps : List Piece) : Clear name ps := by
  induction ps with
  | nil          => trivial
  | cons q ps ih => exact ⟨fun _ => Line.clear_of_not_mem h, ih⟩

theorem Colorless.closed (hl : Colorless ps) : Closed (ps.map slotted) := by
  intro s hs
  have ⟨q, hq, he⟩ := List.mem_map.mp hs
  cases q with
  | text t =>
    cases he
    exact (hl s hq).left.left
  | hole p => cases p <;> cases he <;> decide

theorem colorize_join_slotted (hl : Colorless ps) :
    Color.colorize (join (ps.map slotted)) = join (ps.map slotted) := by
  induction ps with
  | nil => exact Color.colorize_nil
  | cons q ps ih =>
    rw [List.map_cons, join_cons]
    have hq : Color.marker ∉ (slotted q).source := by
      cases q with
      | text s => exact (hl s (.head ps)).right
      | hole p => exact (slotted_hole p).left
    rw [Color.colorize_append_of_not_mem hq, ih hl.tail]

end Piece

namespace Template

open Piece

theorem text_compile_colorless {ps : List Piece} (hl : Colorless ps) :
    (compile (some (.ofList (join ps)))).text = .ofList (join (ps.map slotted)) := by
  have closed : Closed ps := fun s hs => (hl s hs).left.left
  rw [compile, Option.getD_some, insertSlots_join closed, String.toList_ofList, colorize_join_slotted hl]

end Template

theorem Bindings.settled_colorless {providers : ProviderId → Provider} {identity : Identity} {name : String}
    {ps : List Piece} (hl : Piece.Colorless ps) :
    ({} : Bindings).settled providers identity name (Template.compile (some (.ofList (Piece.join ps)))).text =
      .ofList (Piece.join (ps.map (Piece.named name.toList))) := by
  rw [Template.text_compile_colorless hl]
  have put : (some name).elim (.ofList (Piece.join (ps.map Piece.slotted)))
      (Placeholder.name.replace · (.ofList (Piece.join (ps.map Piece.slotted)))) =
        String.ofList (Piece.join (ps.map (Piece.named name.toList))) := by
    rw [Context.elim_replace_join hl.closed, List.map_map]
    rfl
  rw [settled, settling_unbound, Placeholder.fill_outcome rfl, put]
  rfl

end Chatline
