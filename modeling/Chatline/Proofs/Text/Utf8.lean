import Chatline.Text.Reading

namespace Chatline.Text

namespace Utf8

variable {b : UInt8} {bs bytes left : List UInt8} {c : Char} {cs : List Char} {count n position fuel : Nat}

theorem le_of_proceed {value : Nat} {ranges : List (UInt8 × UInt8)} (h : proceed value n ranges bs = .char c count) :
    n ≤ count := by
  induction ranges generalizing value n bs with
  | nil =>
    cases h
    exact Nat.le_refl _
  | cons r ranges ih =>
    cases bs with
    | nil       => cases h
    | cons b bs =>
      rw [proceed] at h
      split at h
      case isTrue => exact Nat.le_of_succ_le (ih h)
      case isFalse => cases h

theorem pos_of_start (h : start b bs = .char c count) : 0 < count := by
  rw [start] at h
  split at h
  case h_1 => cases h
  case h_2 => exact le_of_proceed h

namespace decode

theorem go_char (isLast : Bool) (h : start b bs = .char c count) (fuel position : Nat) :
    go isLast (fuel + 1) position (b :: bs) =
      (go isLast fuel (position + count) ((b :: bs).drop count)).map fun (cs, left) => (c :: cs, left) := by
  have whole : isLeft b bs (start b bs) = false := by
    rw [h]
    rfl
  rw [go, h]
  simp only [← h, whole, Bool.and_false]
  cases go isLast fuel (position + count) ((b :: bs).drop count) <;> rfl

theorem go_of_not_char (h : ∀ c count, start b bs ≠ .char c count) (fuel position : Nat) :
    (∃ flaw, go true (fuel + 1) position (b :: bs) = .error flaw) ∧
      (go false (fuel + 1) position (b :: bs) = .ok ([], b :: bs) ∨
        ∃ flaw, go false (fuel + 1) position (b :: bs) = .error flaw) := by
  rw [go, go]
  cases hs : start b bs with
  | char c count     => exact absurd hs (h c count)
  | partOfChar       => exact ⟨⟨_, rfl⟩, .inl rfl⟩
  | noOpening        => exact ⟨⟨_, rfl⟩, .inr ⟨_, rfl⟩⟩
  | noContinuation n =>
    refine ⟨⟨_, rfl⟩, ?_⟩
    cases hl : isLeft b bs (.noContinuation n) with
    | true  => exact .inl rfl
    | false => exact .inr ⟨_, rfl⟩

theorem go_cons_ok (h : go false (fuel + 1) position (b :: bs) = .ok (cs, left)) :
    (∃ c count cs', start b bs = .char c count ∧ cs = c :: cs' ∧
      go false fuel (position + count) ((b :: bs).drop count) = .ok (cs', left)) ∨
    (cs = [] ∧ left = b :: bs ∧ ∃ flaw, decode true (b :: bs) = .error flaw) := by
  by_cases hs : ∃ c count, start b bs = .char c count
  case pos =>
    have ⟨c, count, hs⟩ := hs
    rw [go_char false hs] at h
    cases hr : go false fuel (position + count) ((b :: bs).drop count) with
    | error flaw =>
      rw [hr] at h
      cases h
    | ok read =>
      rw [hr] at h
      cases h
      exact .inl ⟨c, count, read.1, hs, rfl, hr⟩
  case neg =>
    have other : ∀ c count, start b bs ≠ .char c count := fun c count he => hs ⟨c, count, he⟩
    have ⟨flawed, partly⟩ := go_of_not_char other bs.length 0
    cases (go_of_not_char other fuel position).right with
    | inl rest =>
      cases rest.symm.trans h
      exact .inr ⟨rfl, rfl, flawed⟩
    | inr flaw => cases flaw.choose_spec.symm.trans h

theorem go_ok (enough : bytes.length ≤ fuel) (h : go false fuel position bytes = .ok (cs, left)) :
    cs.length + left.length ≤ bytes.length ∧
      ((left = [] ∧ go true fuel position bytes = .ok (cs, [])) ∨ ∃ flaw, decode true left = .error flaw) := by
  induction fuel generalizing position bytes cs with
  | zero =>
    cases List.length_eq_zero_iff.mp (Nat.le_zero.mp enough)
    cases h
    exact ⟨Nat.le_refl 0, .inl ⟨rfl, rfl⟩⟩
  | succ fuel ih =>
    cases bytes with
    | nil =>
      cases h
      exact ⟨Nat.le_refl 0, .inl ⟨rfl, rfl⟩⟩
    | cons b bs =>
      cases go_cons_ok h with
      | inr rest =>
        have ⟨hc, hl, flawed⟩ := rest
        subst hc hl
        exact ⟨Nat.le_of_eq (Nat.zero_add _), .inr flawed⟩
      | inl read =>
        have ⟨c, count, cs', hs, hc, hr⟩ := read
        subst hc
        have behind : ((b :: bs).drop count).length + 1 ≤ (b :: bs).length := by
          have pos := pos_of_start hs
          rw [List.length_drop, List.length_cons]
          omega
        have ⟨short, rest⟩ := ih (by omega) hr
        refine ⟨by rw [List.length_cons]; omega, rest.imp_left fun ⟨hl, whole⟩ => ⟨hl, ?_⟩⟩
        rw [go_char true hs, whole]
        rfl

end decode

theorem decode_ok (h : decode false bytes = .ok (cs, left)) :
    cs.length + left.length ≤ bytes.length ∧
      ((left = [] ∧ decode true bytes = .ok (cs, [])) ∨ ∃ flaw, decode true left = .error flaw) :=
  decode.go_ok (Nat.le_refl _) h

end Utf8

namespace Reading

variable {bytes : List UInt8}

-- A short file that is no text is read up to a flaw, and has fewer characters than bytes before it.
theorem decodeBlocks_of_not_text (short : bytes.length ≤ blockSize) (h : Utf8.decode? bytes = none) :
    ∃ cs flaw, decodeBlocks (bytes.length / blockSize + 2) [] bytes = (cs, some flaw) ∧ cs.length < blockSize := by
  have flawed : ∃ flaw, Utf8.decode true bytes = .error flaw := by
    cases hd : Utf8.decode true bytes with
    | error flaw => exact ⟨flaw, rfl⟩
    | ok read    => simp [Utf8.decode?, hd, Except.toOption] at h
  cases bytes with
  | nil => cases h
  | cons b bs =>
    have whole : [] ++ (b :: bs).take blockSize = b :: bs := List.take_of_length_le short
    have nothing : (b :: bs).drop blockSize = [] := List.drop_of_length_le short
    simp only [decodeBlocks, whole, nothing]
    cases hd : Utf8.decode false (b :: bs) with
    | error flaw => exact ⟨[], flaw, rfl, by decide⟩
    | ok read    =>
      have ⟨fits, rest⟩ := Utf8.decode_ok hd
      cases rest with
      | inl all  => cases all.right.symm.trans flawed.choose_spec
      | inr rest =>
        have ⟨flaw, hf⟩ := rest
        have remains : 0 < read.2.length := by
          cases hl : read.2 with
          | nil      => simp [hl, Utf8.decode, Utf8.decode.go] at hf
          | cons _ _ => exact Nat.succ_pos _
        refine ⟨read.1, flaw, by simp [hf], by omega⟩

theorem length_unifyBreaks_le (cs : List Char) : (unifyBreaks cs).length ≤ cs.length := by
  fun_induction unifyBreaks cs with
  | case1 cs ih     => exact Nat.le_succ_of_le (Nat.succ_le_succ ih)
  | case2 cs _ ih   => exact Nat.succ_le_succ ih
  | case3 c cs _ _ ih => exact Nat.succ_le_succ ih
  | case4           => exact Nat.le_refl 0

theorem ofBytes_of_not_text (short : bytes.length ≤ blockSize) (h : Utf8.decode? bytes = none) :
    ∃ flaw, (ofBytes bytes).flaw = some flaw ∧ (ofBytes bytes).chars.length < blockSize := by
  have ⟨cs, flaw, read, fewer⟩ := decodeBlocks_of_not_text short h
  refine ⟨flaw, by rw [ofBytes, read], ?_⟩
  rw [ofBytes, read]
  refine Nat.lt_of_le_of_lt (length_unifyBreaks_le _) ?_
  split
  case isTrue => exact Nat.lt_of_le_of_lt (by simp) fewer
  case isFalse => exact fewer

end Reading
end Chatline.Text
