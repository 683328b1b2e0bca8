import Chatline.Datum

namespace Chatline.Datum

-- An integer with more digits than are written is a value, or is somewhere within it.
inductive Overlong : Datum → Prop
  | int {i : Int} (long : Failure.digitLimit < (toString i.natAbs).length) : Overlong (.int i)
  | item {d : Datum} {items : List Datum} (mem : d ∈ items) (within : Overlong d) : Overlong (.list items)
  | first {a b : Datum} (within : Overlong a) : Overlong (.pair a b)
  | second {a b : Datum} (within : Overlong b) : Overlong (.pair a b)
  | member {d : Datum} {members : List Datum} (mem : d ∈ members) (within : Overlong d) : Overlong (.set members)
  | key {e : Datum × Datum} {entries : List (Datum × Datum)} (mem : e ∈ entries) (within : Overlong e.1) :
    Overlong (.map entries)
  | value {e : Datum × Datum} {entries : List (Datum × Datum)} (mem : e ∈ entries) (within : Overlong e.2) :
    Overlong (.map entries)

def WrittenUnless {α : Type} (r : Except Failure α) (reason : Prop) : Prop :=
  ∀ f, r = .error f ↔ f = .tooManyDigits none ∧ reason

namespace WrittenUnless

variable {α β : Type} {r : Except Failure α} {g : α → Except Failure β} {p q : Prop}

theorem congr (h : WrittenUnless r p) (same : p ↔ q) : WrittenUnless r q :=
  fun f => (h f).trans (and_congr_right' same)

theorem pure (a : α) : WrittenUnless (pure a) False :=
  fun _ => ⟨nofun, nofun⟩

theorem bind (h : WrittenUnless r p) (hg : ∀ a, WrittenUnless (g a) q) : WrittenUnless (r >>= g) (p ∨ q) := by
  intro f
  cases r with
  | ok a =>
    have none : ¬p := fun hp => nomatch (h (.tooManyDigits none)).mpr ⟨rfl, hp⟩
    exact (hg a f).trans (and_congr_right' (or_iff_right none).symm)
  | error f' =>
    have ⟨same, hp⟩ := (h f').mp rfl
    subst same
    exact ⟨fun he => ⟨(Except.error.inj he).symm, .inl hp⟩, fun ⟨he, _⟩ => by rw [he]; rfl⟩

theorem map (h : WrittenUnless r p) (g : α → β) : WrittenUnless (do return g (← r)) p :=
  (h.bind fun a => pure (g a)).congr (or_iff_left id)

end WrittenUnless

theorem intText_written (i : Int) : WrittenUnless (intText i) (Overlong (.int i)) := by
  have overlong : Overlong (.int i) ↔ Failure.digitLimit < (toString i.natAbs).length :=
    ⟨fun | .int long => long, .int⟩
  intro f
  rw [overlong, intText]
  split
  case isTrue h => exact ⟨fun he => ⟨(Except.error.inj he).symm, h⟩, fun ⟨he, _⟩ => by rw [he]⟩
  case isFalse h => exact ⟨nofun, fun ⟨_, long⟩ => absurd long h⟩

mutual

theorem innerText_written (d : Datum) : WrittenUnless d.innerText (Overlong d) := by
  cases d with
  | int i => exact intText_written i
  | list items =>
    exact ((innerTexts_written items).map _).congr ⟨fun ⟨_, mem, h⟩ => .item mem h, fun | .item mem h => ⟨_, mem, h⟩⟩
  | pair a b =>
    exact ((innerText_written a).bind fun _ => (innerText_written b).map _).congr
      ⟨fun | .inl h => .first h | .inr h => .second h, fun | .first h => .inl h | .second h => .inr h⟩
  | set members =>
    cases members with
    | nil => exact (WrittenUnless.pure _).congr ⟨nofun, fun | .member mem _ => nomatch mem⟩
    | cons d ds =>
      exact ((innerTexts_written (d :: ds)).map _).congr
        ⟨fun ⟨_, mem, h⟩ => .member mem h, fun | .member mem h => ⟨_, mem, h⟩⟩
  | map entries =>
    exact ((entryTexts_written entries).map _).congr
      ⟨fun | ⟨_, mem, .inl h⟩ => .key mem h | ⟨_, mem, .inr h⟩ => .value mem h,
       fun | .key mem h => ⟨_, mem, .inl h⟩ | .value mem h => ⟨_, mem, .inr h⟩⟩
  | _ => exact (WrittenUnless.pure _).congr ⟨nofun, nofun⟩

theorem innerTexts_written (ds : List Datum) : WrittenUnless (innerTexts ds) (∃ d ∈ ds, Overlong d) := by
  cases ds with
  | nil       => exact (WrittenUnless.pure _).congr (by simp)
  | cons d ds =>
    exact ((innerText_written d).bind fun _ => (innerTexts_written ds).map _).congr (by simp)

theorem entryTexts_written (es : List (Datum × Datum)) :
    WrittenUnless (entryTexts es) (∃ e ∈ es, Overlong e.1 ∨ Overlong e.2) := by
  cases es with
  | nil       => exact (WrittenUnless.pure _).congr (by simp)
  | cons e es =>
    have ⟨k, v⟩ := e
    exact ((innerText_written k).bind fun _ => (innerText_written v).bind fun _ => (entryTexts_written es).map _).congr
      (by simp [or_assoc])

end

theorem display_written (d : Datum) : WrittenUnless d.display (Overlong d) := by
  cases d with
  | text _ | date _ | moment _ => exact (WrittenUnless.pure _).congr ⟨nofun, nofun⟩
  | _ => exact (innerText_written _).map _

end Chatline.Datum
