import Chatline.Proofs.Format.Shown

namespace Chatline

namespace Line

variable {shown message w : List Char}

theorem segments_cons_of_ne {c : Char} (h : c ≠ '%') : segments (c :: w) = push c (segments w) := by
  rw [segments]
  all_goals exact fun _ hc _ => h hc

theorem fill_append_of_not_mem {u : List Char} (h : '%' ∉ u) :
    fill shown message (segments (u ++ w)) = u ++ fill shown message (segments w) := by
  induction u with
  | nil => rfl
  | cons c u ih =>
    have hc : c ≠ '%' := Ne.symm (List.ne_of_not_mem_cons h)
    have hu : '%' ∉ u := List.not_mem_of_not_mem_cons h
    rw [List.cons_append, segments_cons_of_ne hc, fill_push, ih hu, List.cons_append]

theorem render_ofList (format : List Char) (shown message : String) :
    render (.ofList format) shown message = .ofList (fill shown.toList message.toList (segments format)) := by
  rw [render, String.toList_ofList]

end Line

namespace Piece

def shown (value : Placeholder → Option String) : Piece → List Char
  | text s => Color.colorize s
  | hole p => ((value p).getD p.spelling).toList

variable {value : Placeholder → Option String} {ps : List Piece}

def Literal (ps : List Piece) : Prop :=
  ∀ s, text s ∈ ps → Inert s

def resolved (value : Placeholder → Option String) : Piece → Piece :=
  put .name ((value .name).map String.toList) ∘ put .verifierBadge ((value .verifierBadge).map String.toList) ∘
    put .suffixText ((value .suffixText).map String.toList) ∘
    put .prefixText ((value .prefixText).map String.toList) ∘ compiled

theorem source_resolved {p : Placeholder} (hp : p.slot? = none) :
    (resolved value (hole p)).source = ((value p).getD p.spelling).toList := by
  cases p
  case name => cases hv : value .name <;> simp [resolved, compiled, slotted, put, source, hv]
  case prefixText => cases hv : value .prefixText <;> simp [resolved, compiled, slotted, put, source, hv]
  case suffixText => cases hv : value .suffixText <;> simp [resolved, compiled, slotted, put, source, hv]
  case verifierBadge => cases hv : value .verifierBadge <;> simp [resolved, compiled, slotted, put, source, hv]
  all_goals cases hp

variable {sn message w : List Char} {q : Piece}

theorem fill_resolved (hp : ∀ p, p.slot? = none → ∀ s ∈ value p, '%' ∉ s.toList)
    (hn : value .displayName = some (.ofList sn)) (hm : value .message = some (.ofList message))
    (hq : ∀ s, q = text s → Inert s) :
    Line.fill sn message (Line.segments ((resolved value q).source ++ w)) =
      q.shown value ++ Line.fill sn message (Line.segments w) := by
  cases q with
  | text s => exact Line.fill_append_of_not_mem (hq s rfl).colorize.right
  | hole p =>
    cases hs : p.slot? with
    | none =>
      rw [source_resolved hs, shown]
      apply Line.fill_append_of_not_mem
      cases hv : value p with
      | none   => exact p.percent_not_mem_spelling
      | some v => exact hp p hs v hv
    | some slot =>
      cases p
      case displayName =>
        rw [shown, hn, Option.getD_some, String.toList_ofList]
        rfl
      case message =>
        rw [shown, hm, Option.getD_some, String.toList_ofList]
        rfl
      all_goals cases hs

theorem fill_join_resolved (hp : ∀ p, p.slot? = none → ∀ s ∈ value p, '%' ∉ s.toList)
    (hn : value .displayName = some (.ofList sn)) (hm : value .message = some (.ofList message))
    (hl : Literal ps) :
    Line.fill sn message (Line.segments (join (ps.map (resolved value)))) = ps.flatMap (shown value) := by
  induction ps with
  | nil => rfl
  | cons q ps ih =>
    have hq : ∀ s, q = text s → Inert s := fun s he => hl s (he ▸ .head ps)
    have ih := ih fun s hs => hl s (.tail q hs)
    rw [List.map_cons, join_cons, fill_resolved hp hn hm hq, ih, List.flatMap_cons]

end Piece

namespace Template

open Piece

theorem insertSlots_join {ps : List Piece} (closed : Closed ps) :
    insertSlots (.ofList (join ps)) = .ofList (join (ps.map slotted)) := by
  have closed' : Closed (ps.map (put .displayName (some "%1$s".toList))) := closed.put (by decide)
  rw [insertSlots_eq, replace_ofList_join closed, replace_ofList_join closed', List.map_map]
  rfl

theorem text_compile_join {ps : List Piece} (hl : Literal ps) (ha : Apart ps) :
    (compile (some (.ofList (join ps)))).text = .ofList (join (ps.map compiled)) := by
  have closed : Closed ps := fun s hs => (hl s hs).left
  simp only [compile]
  rw [Option.getD_some, insertSlots_join closed, String.toList_ofList, colorize_join ha]

end Template

namespace Piece

theorem closed_compiled {ps : List Piece} (hl : Literal ps) : Closed (ps.map compiled) := by
  intro s hs
  have ⟨q, hq, he⟩ := List.mem_map.mp hs
  cases q with
  | text t =>
    cases he
    exact (hl t hq).colorize.left
  | hole p => cases p <;> cases he <;> decide

end Piece

-- A format is resolved, and the line filled, piece by piece, whatever the players and the providers have to
-- tell.
theorem Bindings.render_resolved {b : Bindings} {providers : ProviderId → Provider} {m : ChatMessage}
    {ps : List Piece} (hl : Piece.Literal ps) (ha : Piece.Apart ps)
    (ho : b.Oblige providers m.player.identity) (hn : '%' ∉ m.player.name.toList) :
    ∃ format,
      ((b.context providers m).resolve (Template.compile (some (.ofList (Piece.join ps)))).text).outcome =
        .ok format ∧
      ({ m with format } : ChatMessage).render = .ofList (ps.flatMap (Piece.shown (b.shown providers m))) := by
  have inert {p : Placeholder} (hp : p.slot? = none) (hn : p ≠ .name) := inert_shown ho hp hn
  have opening {p : Placeholder} (hp : p.slot? = none) (hn : p ≠ .name) :
      ∀ s ∈ b.shown providers m p, Placeholder.opening ∉ s.toList := fun s hs => (inert hp hn s hs).left
  have percent : ∀ p, p.slot? = none → ∀ s ∈ b.shown providers m p, '%' ∉ s.toList := by
    intro p hp s hs
    by_cases he : p = .name
    case pos =>
      subst he
      cases hs
      exact hn
    case neg => exact (inert hp he s hs).right
  have before :
    (b.context providers m).Shows (b.context providers m).prefixLookup (some <| Color.colorizeValue ·)
      (b.shown providers m .prefixText) := shows_chatMeta .playerPrefix fun q hq => (ho.chatMeta q hq).left
  have after :
    (b.context providers m).Shows (b.context providers m).suffixLookup (some <| Color.colorizeValue ·)
      (b.shown providers m .suffixText) := shows_chatMeta .playerSuffix fun q hq => (ho.chatMeta q hq).right
  have resolved := Context.resolve_join (Piece.closed_compiled hl) before after (shows_badge ho)
    (opening rfl (by decide)) (opening rfl (by decide)) (opening rfl (by decide))
  have shownName : b.shown providers m .displayName = some (.ofList m.player.shownName.toList) := by
    rw [String.ofList_toList]
    rfl
  have message : b.shown providers m .message = some (.ofList m.body.toList) := by
    rw [String.ofList_toList]
    rfl
  have filled := Piece.fill_join_resolved percent shownName message hl
  rw [Template.text_compile_join hl ha]
  refine ⟨_, resolved, ?_⟩
  rw [ChatMessage.render, Line.render_ofList, List.map_map]
  exact congrArg String.ofList filled

end Chatline
