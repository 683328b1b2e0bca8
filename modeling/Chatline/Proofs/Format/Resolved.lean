import Chatline.Proofs.Format.Pieces
import Chatline.Resolution

namespace Chatline

namespace Inquiry

variable {κ α β : Type}

theorem bind_outcome {i : Inquiry κ α} {a : α} (h : i.outcome = .ok a) (f : α → Inquiry κ β) :
    (i >>= f).outcome = (f a).outcome := by
  rw [bind_ok h]

end Inquiry

namespace Placeholder

variable {κ : Type}

theorem replace_of_not_occursIn {p : Placeholder} {text : String} (h : p.occursIn text = false)
    (value : String) : p.replace value text = text := by
  rw [replace, Text.replace_of_not_occurs h, String.ofList_toList]

theorem fill_outcome {p : Placeholder} {supply : Inquiry κ (Option String)} {value : Option String}
    (h : supply.outcome = .ok value) (text : String) :
    (p.fill supply text).outcome = .ok (value.elim text (p.replace · text)) := by
  simp only [fill]
  split
  case isTrue =>
    rw [Inquiry.bind_outcome h]
    cases value <;> rfl
  case isFalse hp =>
    cases value with
    | none       => rfl
    | some value => simp [replace_of_not_occursIn (by simpa using hp), Inquiry.pure_def]

end Placeholder

namespace Context

variable {κ : Type} {ctx : Context κ} {lookup : Option (Lookup κ)}
  {display : Option String → Option String} {value : Option String}

-- What a lookup puts in the place of its placeholder: nothing if it is not available or has nothing to
-- show. It may also fail to answer.
def Shows (ctx : Context κ) (lookup : Option (Lookup κ)) (display : Option String → Option String)
    (value : Option String) : Prop :=
  match lookup with
  | none        => value = none
  | some lookup => ∃ answer, (lookup ctx.identity).outcome = .ok answer ∧ value = display answer

theorem Shows.fillWith_outcome (h : ctx.Shows lookup display value) (p : Placeholder) (format : String) :
    (ctx.fillWith p lookup display format).outcome = .ok (value.elim format (p.replace · format)) := by
  cases lookup with
  | none =>
    cases h
    rfl
  | some lookup =>
    have ⟨answer, ha, hv⟩ := h
    subst hv
    exact Placeholder.fill_outcome (Inquiry.bind_outcome ha _) format

open Piece

theorem elim_replace_join {ps : List Piece} (h : Closed ps) (p : Placeholder) (value : Option String) :
    value.elim (.ofList (join ps)) (p.replace · (.ofList (join ps))) =
      String.ofList (join (ps.map (put p (value.map String.toList)))) := by
  cases value with
  | none   => rw [Option.map_none, join_put_none, Option.elim_none]
  | some v => exact replace_ofList_join h p v

theorem resolve_join {ps : List Piece} {p s b : Option String} (h : Closed ps)
    (hp : ctx.Shows ctx.prefixLookup (some <| Color.colorizeValue ·) p)
    (hs : ctx.Shows ctx.suffixLookup (some <| Color.colorizeValue ·) s)
    (hb : ctx.Shows ctx.badgeLookup badgeText b)
    (hpo : ∀ v ∈ p, Placeholder.opening ∉ v.toList) (hso : ∀ v ∈ s, Placeholder.opening ∉ v.toList)
    (hbo : ∀ v ∈ b, Placeholder.opening ∉ v.toList) :
    (ctx.resolve (.ofList (join ps))).outcome =
      .ok (.ofList (join (ps.map
        (put .name (some ctx.name.toList) ∘ put .verifierBadge (b.map String.toList) ∘
          put .suffixText (s.map String.toList) ∘ put .prefixText (p.map String.toList))))) := by
  have closed {v : Option String} (hv : ∀ u ∈ v, Placeholder.opening ∉ u.toList) :
      ∀ u ∈ v.map String.toList, Placeholder.opening ∉ u := by simpa using hv
  have h₁ := h.put (p := .prefixText) (closed hpo)
  have h₂ := h₁.put (p := .suffixText) (closed hso)
  have h₃ := h₂.put (p := .verifierBadge) (closed hbo)
  have name : (pure (some ctx.name) : Inquiry κ (Option String)).outcome = .ok (some ctx.name) := rfl
  simp only [resolve]
  rw [Inquiry.bind_outcome (hp.fillWith_outcome .prefixText _), elim_replace_join h,
    Inquiry.bind_outcome (hs.fillWith_outcome .suffixText _), elim_replace_join h₁,
    Inquiry.bind_outcome (hb.fillWith_outcome .verifierBadge _), elim_replace_join h₂,
    Placeholder.fill_outcome name, elim_replace_join h₃]
  simp only [List.map_map, Option.map_some]

end Context
end Chatline
