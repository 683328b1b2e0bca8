import Chatline.Text.Lower

namespace Chatline.Text

def Basic (t : List Char) : Prop :=
  ∀ c ∈ t, c.toNat < 0x80 ∧ c ≠ 'i' ∧ c ≠ 'k'

instance decidableBasic (t : List Char) : Decidable (Basic t) :=
  List.decidableBAll (fun c : Char => c.toNat < 0x80 ∧ c ≠ 'i' ∧ c ≠ 'k') t

variable {c : Char} {s t w : List Char}

theorem lowerRuns_beyond : ∀ r ∈ lowerRuns,
    r.first = 0x212a ∧ r.last = 0x212a ∧ r.shift = -8383 ∨
      0x80 ≤ r.first + r.shift ∧
        (r.last + r.shift < 0xd800 ∨ 0xdfff < r.first + r.shift ∧ r.last + r.shift < 0x110000) := by
  decide +kernel

theorem toNat_ofNat_of_valid {n : Nat} (h : n < 0xd800 ∨ 0xdfff < n ∧ n < 0x110000) :
    (Char.ofNat n).toNat = n := by
  have valid : n.isValidChar := h
  rw [Char.ofNat, dif_pos valid]
  rfl

theorem map?_lowerRuns {d : Char} (h : CaseRun.map? lowerRuns c = some d) : 0x80 ≤ d.toNat ∨ d = 'k' := by
  have ⟨r, hf, hd⟩ := Option.map_eq_some_iff.mp h
  have covers := List.find?_some hf
  simp only [CaseRun.covers, Bool.and_eq_true, decide_eq_true_eq] at covers
  rcases lowerRuns_beyond r (List.mem_of_find?_eq_some hf) with ⟨hfirst, hlast, hshift⟩ | ⟨low, high⟩
  case inl =>
    have hc : c.toNat = 0x212a := by omega
    rw [hc, hshift] at hd
    exact .inr hd.symm
  case inr =>
    have valid : ((c.toNat : Int) + r.shift).toNat < 0xd800 ∨
        0xdfff < ((c.toNat : Int) + r.shift).toNat ∧ ((c.toNat : Int) + r.shift).toNat < 0x110000 := by omega
    left
    rw [← hd, toNat_ofNat_of_valid valid]
    omega

def lowered (c : Char) (final : Bool) : List Char :=
  if c = 'Σ' && final then ['ς'] else lowerChar c

theorem lowered_ascii (hc : c.toNat < 0x80) (final : Bool) : lowered c final = [c.toLower] := by
  have hs : c ≠ 'Σ' := by
    intro he
    subst he
    exact absurd hc (by decide)
  simp [lowered, hs, lowerChar, hc]

theorem lowered_append_ne (hc : ¬ c.toNat < 0x80) (ht : Basic t) (final : Bool) : lowered c final ++ w ≠ t := by
  have odd {d : Char} {u : List Char} (hd : 0x80 ≤ d.toNat ∨ d = 'i' ∨ d = 'k') : d :: u ≠ t := by
    intro he
    have ⟨low, hi, hk⟩ := ht d (he ▸ .head u)
    rcases hd with hd | hd | hd
    case inl => omega
    case inr.inl => exact hi hd
    case inr.inr => exact hk hd
  rw [lowered, lowerChar, if_neg hc]
  split
  case isTrue => exact odd (.inl (by decide))
  case isFalse =>
    split
    case isTrue => exact odd (.inr (.inl rfl))
    case isFalse =>
      cases hm : CaseRun.map? lowerRuns c with
      | none   => exact odd (.inl (Nat.not_lt.mp hc))
      | some d => exact odd ((map?_lowerRuns hm).imp_right .inr)

theorem toLower_of_not_ascii (hc : ¬ c.toNat < 0x80) : c.toLower = c := by
  have hv : ¬ (c.val ≥ 'A'.val ∧ c.val ≤ 'Z'.val) := by
    intro ⟨_, hz⟩
    have hz : c.toNat ≤ 'Z'.toNat := UInt32.le_iff_toNat_le.mp hz
    exact hc (Nat.lt_of_le_of_lt hz (by decide))
  exact dif_neg hv

theorem lowerPoints_go_cons (before : List CodePoint) (c : Char) (s : List Char) :
    lowerPoints.go before ((c :: s).map .char) =
      (lowered c (meetsCased before && !meetsCased (s.map .char))).map .char ++
        lowerPoints.go (.char c :: before) (s.map .char) := by
  rw [List.map_cons, lowerPoints.go, lowered, Bool.and_assoc]

theorem lowerPoints_go_map_char (before : List CodePoint) (s : List Char) :
    ∃ u : List Char, lowerPoints.go before (s.map .char) = u.map .char := by
  induction s generalizing before with
  | nil => exact ⟨[], rfl⟩
  | cons c s ih =>
    have ⟨u, hu⟩ := ih (.char c :: before)
    refine ⟨lowered c (meetsCased before && !meetsCased (s.map .char)) ++ u, ?_⟩
    rw [lowerPoints_go_cons, hu, List.map_append]

theorem lowerPoints_go_eq_iff (before : List CodePoint) (ht : Basic t) :
    lowerPoints.go before (s.map .char) = t.map .char ↔ s.map Char.toLower = t := by
  induction s generalizing before t with
  | nil => simp [lowerPoints.go, eq_comm]
  | cons c s ih =>
    rw [lowerPoints_go_cons, List.map_cons]
    by_cases hc : c.toNat < 0x80
    case pos =>
      rw [lowered_ascii hc]
      cases t with
      | nil => simp
      | cons d t =>
        have tail : Basic t := fun e he => ht e (.tail d he)
        simp [ih _ tail]
    case neg =>
      constructor
      case mp =>
        intro he
        have ⟨u, w, hs, hu, _⟩ := List.map_eq_append_iff.mp he.symm
        rw [(List.map_inj_right fun _ _ => CodePoint.char.inj).mp hu] at hs
        exact absurd hs.symm (lowered_append_ne hc ht _)
      case mpr =>
        intro he
        rw [toLower_of_not_ascii hc] at he
        exact absurd (ht c (he ▸ .head _)).left hc

theorem joined_map_char (s : List Char) : joined (s.map .char) = s := by
  have h := joined_points (.ofList s)
  rwa [points, String.toList_ofList] at h

-- Full lower-casing leads to a basic text just where lower-casing ASCII letters does.
theorem lower_eq_iff {s t : String} (ht : Basic t.toList) : lower s = t ↔ s.map Char.toLower = t := by
  have ⟨u, hu⟩ := lowerPoints_go_map_char [] s.toList
  have lower_eq : lower s = .ofList u := by rw [lower, lowerPoints, points, hu, joined_map_char]
  have basic := lowerPoints_go_eq_iff (s := s.toList) [] ht
  rw [hu, List.map_inj_right fun _ _ => CodePoint.char.inj] at basic
  rw [lower_eq, ← String.toList_inj, ← String.toList_inj, String.toList_ofList, String.toList_map, basic]

end Chatline.Text
