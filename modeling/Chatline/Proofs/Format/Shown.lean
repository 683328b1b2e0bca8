import Chatline.Bindings
import Chatline.Proofs.Format.Resolved

namespace Chatline

def Provider.told (p : Provider) (r : Request) : Option String :=
  p.answer r |>.toOption.join

-- A text that opens neither a placeholder nor a slot.
def Inert (s : List Char) : Prop :=
  Placeholder.opening ∉ s ∧ '%' ∉ s

theorem Inert.colorize {s : List Char} (h : Inert s) : Inert (Color.colorize s) := by
  constructor
  case left =>
    intro hm
    rcases Color.mem_colorize hm with hm | hm | hm
    case inl => exact h.left hm
    all_goals revert hm; decide
  case right =>
    intro hm
    rcases Color.mem_colorize hm with hm | hm | hm
    case inl => exact h.right hm
    all_goals revert hm; decide

theorem Inert.colorizeValue {value : Option String} (h : ∀ s ∈ value, Inert s.toList) :
    Inert (Color.colorizeValue value).toList := by
  cases value with
  | none   => exact ⟨by decide, by decide⟩
  | some s =>
    rw [Color.colorizeValue, String.toList_ofList]
    exact (h s rfl).colorize

def Provider.Obliges (p : Provider) (r : Request) : Prop :=
  ∃ answer, p.answer r = .ok answer ∧ ∀ s ∈ answer, Inert s.toList

namespace Bindings

variable (b : Bindings) (providers : ProviderId → Provider)

-- The providers that are bound answer whatever they may be asked because of a player.
structure Oblige (identity : Identity) : Prop where
  chatMeta         : ∀ q ∈ b.chatMeta,
    (providers q).Obliges (.playerPrefix identity) ∧ (providers q).Obliges (.playerSuffix identity)
  accounts         : ∀ q ∈ b.accounts, ∃ answer, (providers q).answer (.account identity) = .ok answer
  verifierPrefixes : ∀ q ∈ b.verifierPrefixes, ∀ verifier, (providers q).Obliges (.badge verifier)

def badgeShown (identity : Identity) : Option String := do
  let accounts ← b.accounts
  let registry ← b.verifierPrefixes
  let verifier ← (providers accounts).told (.account identity)
  let badge ← (providers registry).told (.badge verifier)
  if badge.isEmpty then none else some (Color.colorizeValue (some badge) ++ " ")

def shown (m : ChatMessage) : Placeholder → Option String
  | .name          => some m.player.name
  | .displayName   => some m.player.shownName
  | .message       => some m.body
  | .prefixText    => b.chatMeta.map fun q =>
    Color.colorizeValue ((providers q).told (.playerPrefix m.player.identity))
  | .suffixText    => b.chatMeta.map fun q =>
    Color.colorizeValue ((providers q).told (.playerSuffix m.player.identity))
  | .verifierBadge => b.badgeShown providers m.player.identity

variable {b providers} {m : ChatMessage} {q : ProviderId} {r : Request} {answer : Option String}

theorem told_of_answer {p : Provider} (h : p.answer r = .ok answer) : p.told r = answer := by
  simp [Provider.told, h, Except.toOption]

theorem shows_chatMeta (r : Identity → Request)
    (ho : ∀ q ∈ b.chatMeta, (providers q).Obliges (r m.player.identity)) :
    (b.context providers m).Shows (b.chatMeta.map fun q identity => ask providers q (r identity))
      (some <| Color.colorizeValue ·)
      (b.chatMeta.map fun q => Color.colorizeValue ((providers q).told (r m.player.identity))) := by
  cases hq : b.chatMeta with
  | none   => rfl
  | some q =>
    have ⟨answer, ha, _⟩ := ho q hq
    exact ⟨answer, ha, by simp [told_of_answer ha]⟩

theorem inert_chatMeta (r : Identity → Request) {identity : Identity}
    (ho : ∀ q ∈ b.chatMeta, (providers q).Obliges (r identity)) :
    ∀ s ∈ b.chatMeta.map fun q => Color.colorizeValue ((providers q).told (r identity)), Inert s.toList := by
  intro s hs
  have ⟨q, hq, he⟩ := Option.map_eq_some_iff.mp hs
  have ⟨answer, ha, inert⟩ := ho q hq
  rw [told_of_answer ha] at he
  subst he
  exact .colorizeValue inert

theorem badge_outcome {accounts registry : ProviderId} {identity : Identity}
    (h : (providers accounts).answer (.account identity) = .ok answer) :
    (badge providers accounts registry identity).outcome =
      answer.elim (.ok none) fun verifier => (providers registry).answer (.badge verifier) := by
  have asked : (ask providers accounts (.account identity)).outcome = .ok answer := h
  simp only [badge]
  rw [Inquiry.bind_outcome asked]
  cases answer <;> rfl

theorem shows_badge (ho : b.Oblige providers m.player.identity) :
    (b.context providers m).Shows (b.context providers m).badgeLookup Context.badgeText
      (b.shown providers m .verifierBadge) := by
  simp only [context, Context.Shows, shown, badgeShown]
  cases ha : b.accounts with
  | none          => rfl
  | some accounts =>
    cases hr : b.verifierPrefixes with
    | none          => rfl
    | some registry =>
      have ⟨answer, hv⟩ := ho.accounts accounts ha
      cases answer with
      | none => exact ⟨none, badge_outcome hv, by simp [told_of_answer hv, Context.badgeText]⟩
      | some verifier =>
        have ⟨badge, hb, _⟩ := ho.verifierPrefixes registry hr verifier
        refine ⟨badge, (badge_outcome hv).trans hb, ?_⟩
        cases badge <;> simp [told_of_answer hv, told_of_answer hb, Context.badgeText]

theorem inert_badgeShown {identity : Identity} (ho : b.Oblige providers identity) :
    ∀ s ∈ b.badgeShown providers identity, Inert s.toList := by
  intro s hs
  simp only [badgeShown, Option.mem_def, Option.bind_eq_bind, Option.bind_eq_some_iff] at hs
  have ⟨accounts, _, registry, hr, verifier, _, badge, hb, hs⟩ := hs
  have ⟨answer, ha, inert⟩ := ho.verifierPrefixes registry hr verifier
  rw [told_of_answer ha] at hb
  split at hs
  case isTrue => cases hs
  case isFalse =>
    cases hs
    have ⟨ho, hp⟩ := (Inert.colorizeValue (hb ▸ inert) : Inert (Color.colorizeValue (some badge)).toList)
    have space : Inert " ".toList := ⟨by decide, by decide⟩
    rw [String.toList_append]
    exact ⟨List.not_mem_append ho space.left, List.not_mem_append hp space.right⟩

theorem inert_shown (ho : b.Oblige providers m.player.identity) {p : Placeholder} (hp : p.slot? = none)
    (hn : p ≠ .name) : ∀ s ∈ b.shown providers m p, Inert s.toList := by
  intro s hs
  cases p
  case prefixText => exact inert_chatMeta .playerPrefix (fun q hq => (ho.chatMeta q hq).left) s hs
  case suffixText => exact inert_chatMeta .playerSuffix (fun q hq => (ho.chatMeta q hq).right) s hs
  case verifierBadge => exact inert_badgeShown ho s hs
  case name => contradiction
  all_goals cases hp

end Bindings
end Chatline
