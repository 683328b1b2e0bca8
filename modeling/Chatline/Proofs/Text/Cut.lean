import Chatline.Proofs.Text.Replace

namespace Chatline.Text

-- A text that is cut at the tokens in it: literal texts with a token between any two of them.
inductive Cut (τ : Type)
  | last (s : List Char)
  | next (s : List Char) (t : τ) (c : Cut τ)

namespace Cut

variable {τ : Type}

def literals : Cut τ → List (List Char)
  | last s     => [s]
  | next s _ c => s :: c.literals

def write (token : τ → List Char) (literal : List Char → List Char) : Cut τ → List Char
  | last s     => literal s
  | next s t c => literal s ++ (token t ++ c.write token literal)

def map (f : List Char → List Char) : Cut τ → Cut τ
  | last s     => last (f s)
  | next s t c => next (f s) t (c.map f)

def push (a : Char) : Cut τ → Cut τ
  | last s     => last (a :: s)
  | next s t c => next (a :: s) t c

structure Of (spell : τ → List Char) (s : List Char) (c : Cut τ) : Prop where
  text  : c.write spell id = s
  clean : ∀ u ∈ c.literals, ∀ t, ¬ spell t <:+: u

end Cut

-- Tokens that can be told apart wherever they stand: the character that a token opens with does not occur
-- further inside any of them, and none of them begins another one.
structure Legible {τ : Type} (spell : τ → List Char) : Prop where
  opens  : ∀ t, ∃ a v, spell t = a :: v ∧ ∀ u, a ∉ (spell u).tail
  begins : ∀ t u, spell t <+: spell u → t = u

variable {p new s w : List Char}

theorem prefix_of_prefix_append (hs : s ≠ []) (hw : ∀ a ∈ w.head?, a ∉ p.tail) (h : p <+: s ++ w) : p <+: s := by
  obtain ⟨v, hv⟩ := h
  rw [List.append_eq_append_iff] at hv
  obtain ⟨v, hv, -⟩ | ⟨v, hp, hw'⟩ := hv
  case inl => exact ⟨v, hv.symm⟩
  case inr =>
    cases v with
    | nil      => simp [hp]
    | cons a v =>
      obtain ⟨b, s, rfl⟩ := List.exists_cons_of_ne_nil hs
      exact absurd (by simp [hp]) (hw a (by simp [hw']))

theorem infix_append (hw : ∀ a ∈ w.head?, a ∉ p.tail) (h : p <:+: s ++ w) : p <:+: s ∨ p <:+: w := by
  induction s with
  | nil => exact .inr h
  | cons c s ih =>
    obtain hp | hi := List.infix_cons_iff.mp h
    case inl => exact .inl (prefix_of_prefix_append (List.cons_ne_nil c s) hw hp).isInfix
    case inr => exact (ih hi).imp_left List.infix_cons

theorem replace_literal_append (hs : ¬ p <:+: s) (hw : ∀ a ∈ w.head?, a ∉ p.tail) :
    replace p new (s ++ w) = s ++ replace p new w := by
  induction s with
  | nil => rfl
  | cons c s ih =>
    have here : p.isPrefixOf (c :: s ++ w) = false := by
      rw [Bool.eq_false_iff, Ne, List.isPrefixOf_iff_prefix]
      exact fun h => hs (prefix_of_prefix_append (List.cons_ne_nil c s) hw h).isInfix
    have there : replace p new (s ++ w) = s ++ replace p new w := ih fun h => hs (List.infix_cons h)
    rw [List.cons_append] at here
    simpa [replace, replace.go, here] using there

theorem replace_of_not_infix (h : ¬ p <:+: s) : replace p new s = s := by
  have whole : replace p new (s ++ []) = s ++ replace p new [] := replace_literal_append h (by simp)
  simpa [replace_nil] using whole

namespace Cut

variable {τ : Type} {spell token token' : τ → List Char} {c c' : Cut τ}

theorem write_map (f literal : List Char → List Char) (token : τ → List Char) (c : Cut τ) :
    (c.map f).write token literal = c.write token (literal ∘ f) := by
  induction c with
  | last s        => rfl
  | next s t c ih => simp only [map, write, ih, Function.comp_apply]

theorem literals_map (f : List Char → List Char) (c : Cut τ) : (c.map f).literals = c.literals.map f := by
  induction c with
  | last s        => rfl
  | next s t c ih => simp only [map, literals, ih, List.map_cons]

theorem write_push (a : Char) (c : Cut τ) : (c.push a).write spell id = a :: c.write spell id := by
  cases c <;> rfl

theorem replace_write (step : ∀ t w, replace p new (token t ++ w) = token' t ++ replace p new w)
    (opens : ∀ t, ∃ a v, token t = a :: v ∧ a ∉ p.tail) (clean : ∀ u ∈ c.literals, ¬ p <:+: u) :
    replace p new (c.write token id) = c.write token' id := by
  induction c with
  | last s => exact replace_of_not_infix (clean s (.head _))
  | next s t c ih =>
    have ih := ih fun u hu => clean u (.tail _ hu)
    have ⟨a, v, ha, hi⟩ := opens t
    have calm : ∀ b ∈ (token t ++ c.write token id).head?, b ∉ p.tail := by simpa [ha] using hi
    rw [write, write, id, replace_literal_append (clean s (.head _)) calm, step, ih]

end Cut

namespace Legible

variable {τ : Type} {spell : τ → List Char} {t : τ}

theorem ne_nil (h : Legible spell) (t : τ) : spell t ≠ [] := by
  obtain ⟨a, v, ha, -⟩ := h.opens t
  simp [ha]

theorem opens_append (h : Legible spell) (t u : τ) (w : List Char) :
    ∀ a ∈ (spell t ++ w).head?, a ∉ (spell u).tail := by
  obtain ⟨a, v, ha, hi⟩ := h.opens t
  simpa [ha] using hi u

theorem comp {υ : Type} {f : υ → τ} (h : Legible spell) (hf : ∀ a b, f a = f b → a = b) :
    Legible fun a => spell (f a) where
  opens a    :=
    have ⟨b, v, hb, hi⟩ := h.opens (f a)
    ⟨b, v, hb, fun u => hi (f u)⟩
  begins a b := fun hp => hf a b (h.begins (f a) (f b) hp)

theorem not_infix_write {υ : Type} {f : υ → τ} {c : Cut υ} (h : Legible spell) (other : ∀ u, f u ≠ t)
    (clean : ∀ s ∈ c.literals, ¬ spell t <:+: s) : ¬ spell t <:+: c.write (fun u => spell (f u)) id := by
  induction c with
  | last s => exact clean s (.head _)
  | next s u c ih =>
    intro hi
    have ⟨a, v, ha, _⟩ := h.opens (f u)
    have ⟨b, w, hb, inner⟩ := h.opens t
    obtain hi | hi := infix_append (h.opens_append (f u) t _) hi
    case inl => exact clean s (.head _) hi
    case inr =>
      rw [ha, List.cons_append] at hi
      obtain hp | hi := List.infix_cons_iff.mp hi
      case inl =>
        rw [← List.cons_append, ← ha] at hp
        cases List.prefix_or_prefix_of_prefix hp (List.prefix_append _ _) with
        | inl hp => exact other u (h.begins t (f u) hp).symm
        | inr hp => exact other u (h.begins (f u) t hp)
      case inr =>
        have outside : ∀ b ∈ (spell t).head?, b ∉ v := by simpa [hb, ha] using inner (f u)
        exact ih (fun s hs => clean s (.tail _ hs)) (infix_of_infix_append outside (h.ne_nil t) hi)

theorem of_push {a : Char} {s : List Char} {c : Cut τ} (hc : c.Of spell s) (here : ∀ t, ¬ spell t <+: a :: s) :
    (c.push a).Of spell (a :: s) where
  text  := by rw [c.write_push, hc.text]
  clean := by
    -- A token in the literal text that has grown begins with the new character, or was there before.
    have grown {u : List Char} (hu : u ∈ c.literals) (hs : u <+: s) (t : τ) : ¬ spell t <:+: a :: u := by
      rw [List.infix_cons_iff, not_or]
      exact ⟨fun hp => here t (hp.trans (List.cons_prefix_cons.mpr ⟨rfl, hs⟩)), hc.clean u hu t⟩
    have ht := hc.text
    intro u hu
    cases c with
    | last u' =>
      cases List.mem_singleton.mp hu
      exact grown (.head _) (by simp [← ht, Cut.write])
    | next u' t' c =>
      cases hu with
      | head      => exact grown (.head _) (by simp [← ht, Cut.write])
      | tail _ hu => exact hc.clean u (.tail _ hu)

theorem exists_cut (h : Legible spell) (s : List Char) : ∃ c : Cut τ, c.Of spell s := by
  by_cases here : ∃ t, spell t <+: s
  case pos =>
    obtain ⟨t, w, hw⟩ := here
    have shorter : w.length < s.length := by
      have consumed : 0 < (spell t).length := List.length_pos_iff.mpr (h.ne_nil t)
      rw [← hw, List.length_append]
      omega
    have ⟨c, hc⟩ := exists_cut h w
    refine ⟨.next [] t c, by simp [Cut.write, hc.text, hw], fun u hu => ?_⟩
    cases hu with
    | head      => simpa using h.ne_nil
    | tail _ hu => exact hc.clean u hu
  case neg =>
    cases s with
    | nil      => exact ⟨.last [], rfl, by simpa [Cut.literals] using h.ne_nil⟩
    | cons a s =>
      have ⟨c, hc⟩ := exists_cut h s
      exact ⟨c.push a, of_push hc (not_exists.mp here)⟩
termination_by s.length

theorem prefix_of_append_eq (h : Legible spell) {s s' w w' : List Char} {t t' : τ} (free : ¬ spell t <:+: s')
    (he : s ++ (spell t ++ w) = s' ++ (spell t' ++ w')) : s' <+: s := by
  obtain ⟨v, rfl, hv⟩ | ⟨v, rfl, -⟩ := List.append_eq_append_iff.mp he
  case inr => exact List.prefix_append s' v
  case inl =>
    cases v with
    | nil      => simp
    | cons b v =>
      -- The longer one would go on with the token, because the token does not reach into the next one.
      have begun : spell t <+: b :: v ++ (spell t' ++ w') := hv ▸ List.prefix_append (spell t) w
      have ended : spell t <+: b :: v :=
        prefix_of_prefix_append (List.cons_ne_nil b v) (h.opens_append t' t w') begun
      exact absurd (ended.isInfix.trans (List.suffix_append s (b :: v)).isInfix) free

theorem cut_unique (h : Legible spell) {s : List Char} {c c' : Cut τ} (hc : c.Of spell s) (hc' : c'.Of spell s) :
    c = c' := by
  have he : c.write spell id = c'.write spell id := hc.text.trans hc'.text.symm
  induction c generalizing s c' with
  | last u =>
    cases c' with
    | last u'      => exact congrArg Cut.last he
    | next u' t c' => exact absurd ⟨u', c'.write spell id, by simpa [Cut.write] using he.symm⟩ (hc.clean u (.head _) t)
  | next u t c ih =>
    cases c' with
    | last u'       => exact absurd ⟨u, c.write spell id, by simpa [Cut.write] using he⟩ (hc'.clean u' (.head _) t)
    | next u' t' c' =>
      -- Neither literal text is longer than the other, so the same token comes behind both.
      have hu : u' <+: u := h.prefix_of_append_eq (hc'.clean u' (.head _) t) he
      have hu' : u <+: u' := h.prefix_of_append_eq (hc.clean u (.head _) t') he.symm
      obtain rfl : u = u' := hu'.eq_of_length_le hu.length_le
      have ht : spell t ++ c.write spell id = spell t' ++ c'.write spell id := List.append_cancel_left he
      have begun : spell t <+: spell t' ++ c'.write spell id := ht ▸ List.prefix_append _ _
      obtain rfl : t = t' := by
        cases List.prefix_or_prefix_of_prefix begun (List.prefix_append _ _) with
        | inl hp => exact h.begins t t' hp
        | inr hp => exact (h.begins t' t hp).symm
      have hr : c.write spell id = c'.write spell id := List.append_cancel_left ht
      have rest : c = c' := ih ⟨hr, fun v hv => hc.clean v (.tail _ hv)⟩ ⟨rfl, fun v hv => hc'.clean v (.tail _ hv)⟩ hr
      rw [rest]

end Legible
end Chatline.Text
