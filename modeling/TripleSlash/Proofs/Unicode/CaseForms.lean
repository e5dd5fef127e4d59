import Mathlib.Data.List.Basic
import TripleSlash.Unicode.Casing
import TripleSlash.Unicode.Class

namespace TripleSlash.Unicode

/-- What a character becomes in lower case, at the end of a word or elsewhere. -/
def lowerForms (c : Char) : List Char := if c == 'Σ' then ['σ', 'ς'] else lowerChar c

/-- What a character becomes in one case or another. -/
def caseForms (c : Char) : List Char :=
  c :: (upperChar c ++ lowerForms c ++ (lowerForms c).flatMap upperChar)

theorem mapCase_ne_nil {sequences : List (Nat × List Nat)} (h : ∀ p ∈ sequences, p.2 ≠ [])
    (shifts : List Shift) (c : Char) : mapCase sequences shifts c ≠ [] := by
  rw [mapCase]
  split
  case h_1 ns hl =>
    obtain ⟨A, B, hs, -⟩ := List.lookup_eq_some_iff.1 hl
    simpa using h (c.toNat, ns) (by simp [hs])
  case h_2 => split <;> exact List.cons_ne_nil _ _

theorem lowerChar_ne_nil (c : Char) : lowerChar c ≠ [] := by
  rw [lowerChar]
  split
  · exact List.cons_ne_nil _ _
  · exact mapCase_ne_nil (by decide) _ c

theorem upperChar_ne_nil (c : Char) : upperChar c ≠ [] := by
  rw [upperChar]
  split
  · exact List.cons_ne_nil _ _
  · exact mapCase_ne_nil (by decide) _ c

theorem exists_upperChar_eq_cons (c : Char) : ∃ x xs, upperChar c = x :: xs :=
  List.exists_cons_of_ne_nil (upperChar_ne_nil c)

theorem exists_lowerFrom_eq_cons (before : List Char) (c : Char) (cs : List Char) :
    ∃ x xs, lowerFrom before (c :: cs) = x :: (xs ++ lowerFrom (c :: before) cs) ∧
      x ∈ lowerForms c := by
  rw [lowerFrom, lowerForms]
  split
  case isTrue =>
    refine ⟨_, [], rfl, ?_⟩
    split <;> simp
  case isFalse =>
    obtain ⟨x, xs, hx⟩ := List.exists_cons_of_ne_nil (lowerChar_ne_nil c)
    rw [hx]
    exact ⟨x, xs, rfl, List.mem_cons_self⟩

theorem exists_lowercase_eq_cons_cons (c d : Char) (cs : List Char) :
    ∃ x y ys, lowercase (c :: d :: cs) = x :: y :: ys ∧ x ∈ lowerForms c := by
  obtain ⟨x, xs, hx, hxc⟩ := exists_lowerFrom_eq_cons [] c (d :: cs)
  obtain ⟨y, ys, hy, -⟩ := exists_lowerFrom_eq_cons [c] d cs
  rw [lowercase, hx, hy]
  cases xs with
  | nil => exact ⟨x, y, _, rfl, hxc⟩
  | cons z xs => exact ⟨x, z, _, rfl, hxc⟩

theorem mem_caseForms_self (c : Char) : c ∈ caseForms c := List.mem_cons_self

theorem mem_caseForms_of_mem_upperChar (h : x ∈ upperChar c) : x ∈ caseForms c := by
  simp [caseForms, h]

theorem mem_caseForms_of_mem_lowerForms (h : x ∈ lowerForms c) : x ∈ caseForms c := by
  simp [caseForms, h]

theorem mem_caseForms_of_mem_upperChar_lowerForms (hy : y ∈ lowerForms c) (hx : x ∈ upperChar y) :
    x ∈ caseForms c := by
  have hm : x ∈ (lowerForms c).flatMap upperChar := List.mem_flatMap.2 ⟨y, hy, hx⟩
  simp [caseForms, hm]

theorem Shift.eq_of_apply {s : Shift} {n : Nat} (hx : 0 < x.toNat)
    (h : Char.ofNat (s.apply n) = x) :
    n = ((x.toNat : Int) - s.distance).toNat := by
  by_cases hv : (s.apply n).isValidChar
  case pos =>
    rw [Char.ofNat, dif_pos hv] at h
    have ht : s.apply n = x.toNat := congrArg Char.toNat h
    rw [Shift.apply] at ht
    omega
  case neg =>
    rw [Char.ofNat, dif_neg hv] at h
    rw [← h] at hx
    cases hx

/-- All that a character can become in lower case. -/
theorem lowerChar_cases (c : Char) :
    lowerChar c = ['i', '\u0307'] ∨ c.toNat < 0x80 ∧ lowerChar c = [c.toLower] ∨
      (∃ s ∈ lowerShifts, s.run.contains c.toNat = true ∧
        lowerChar c = [Char.ofNat (s.apply c.toNat)]) ∨ lowerChar c = [c] := by
  rw [lowerChar]
  split
  case isTrue hc => exact .inr (.inl ⟨hc, rfl⟩)
  case isFalse =>
    rw [mapCase]
    split
    case h_1 ns hl =>
      obtain ⟨A, B, hs, -⟩ := List.lookup_eq_some_iff.1 hl
      have hm : (c.toNat, ns) ∈ lowerSequences := by simp [hs]
      rw [lowerSequences, List.mem_singleton, Prod.mk.injEq] at hm
      exact .inl (by rw [hm.2]; rfl)
    case h_2 =>
      split
      case h_1 s hs =>
        have hrun := List.find?_some hs
        exact .inr (.inr (.inl ⟨s, List.mem_of_find?_eq_some hs, hrun, rfl⟩))
      case h_2 => exact .inr (.inr (.inr rfl))

theorem lowerChar_eq_pair_or_singleton (c : Char) :
    lowerChar c = ['i', '\u0307'] ∨ ∃ x, lowerChar c = [x] := by
  rcases lowerChar_cases c with h | ⟨-, h⟩ | ⟨s, -, -, h⟩ | h
  · exact .inl h
  · exact .inr ⟨_, h⟩
  · exact .inr ⟨_, h⟩
  · exact .inr ⟨_, h⟩

/-- The space and the letters `b` and `e` are the lower case of no character beyond ASCII. -/
theorem lt_of_lowerChar_eq (h : lowerChar c = [x]) (hx : x ∈ [' ', 'b', 'e']) : c.toNat < 0x80 := by
  obtain ⟨hpos, hlt, ht⟩ : 0 < x.toNat ∧ x.toNat < 0x80 ∧ ∀ s ∈ lowerShifts,
      s.run.contains ((x.toNat : Int) - s.distance).toNat = false := by
    rw [List.mem_cons, List.mem_pair] at hx
    rcases hx with rfl | rfl | rfl <;> decide +kernel
  rcases lowerChar_cases c with hc | ⟨hc, -⟩ | ⟨s, hs, hrun, hc⟩ | hc
  · simp [hc] at h
  · exact hc
  · have he := List.singleton_inj.1 (hc.symm.trans h)
    rw [Shift.eq_of_apply hpos he, ht s hs] at hrun
    cases hrun
  · rwa [List.singleton_inj.1 (hc.symm.trans h)]

theorem exists_eq_ofNat (hc : c.toNat < 0x80) : ∃ n < 0x80, c = Char.ofNat n :=
  ⟨c.toNat, hc, (Char.ofNat_toNat c).symm⟩

theorem eq_of_lowerChar_eq (h : lowerChar c = [x]) (hx : x ∈ [' ', 'b', 'e']) :
    c = x ∨ c = x.toUpper := by
  have hc := lt_of_lowerChar_eq h hx
  rw [lowerChar, if_pos hc, List.singleton_inj] at h
  have ha : ∀ n < 0x80, (Char.ofNat n).toLower = x →
      Char.ofNat n = x ∨ Char.ofNat n = x.toUpper := by
    rw [List.mem_cons, List.mem_pair] at hx
    rcases hx with rfl | rfl | rfl <;> decide
  obtain ⟨n, hn, rfl⟩ := exists_eq_ofNat hc
  exact ha n hn h

theorem eq_of_lowerFrom_eq_cons (h : lowerFrom before (c :: cs) = x :: xs)
    (hx : x ∈ [' ', 'b', 'e']) :
    (c = x ∨ c = x.toUpper) ∧ lowerFrom (c :: before) cs = xs := by
  rw [lowerFrom] at h
  split at h
  case isTrue =>
    have he := (List.cons.inj h).1
    revert he hx
    split <;> rintro hx rfl <;> simp at hx
  case isFalse =>
    rcases lowerChar_eq_pair_or_singleton c with hc | ⟨y, hc⟩
    · rw [hc] at h
      rw [← (List.cons.inj h).1] at hx
      simp at hx
    · rw [hc] at h
      obtain ⟨rfl, hl⟩ := List.cons.inj h
      exact ⟨eq_of_lowerChar_eq hc hx, hl⟩

theorem eq_space_of_mem_lowerForms (h : ' ' ∈ lowerForms c) : c = ' ' := by
  rw [lowerForms] at h
  split at h
  case isTrue => simp at h
  case isFalse =>
    rcases lowerChar_eq_pair_or_singleton c with hc | ⟨x, hc⟩
    · simp [hc] at h
    · rw [hc, List.mem_singleton] at h
      rw [← h] at hc
      exact (eq_of_lowerChar_eq hc List.mem_cons_self).elim id id

theorem exists_mem_lowerForms (h : x ∈ lowerFrom before cs) : ∃ c ∈ cs, x ∈ lowerForms c := by
  induction cs generalizing before with
  | nil => cases h
  | cons c cs ih =>
    rw [lowerFrom] at h
    rcases List.mem_append.1 h with h | h
    · refine ⟨c, List.mem_cons_self, ?_⟩
      rw [lowerForms]
      split at h
      case isTrue hc =>
        rw [if_pos hc, List.mem_singleton.1 h]
        split <;> simp
      case isFalse hc => rwa [if_neg hc]
    · obtain ⟨d, hd, hx⟩ := ih h
      exact ⟨d, List.mem_cons_of_mem c hd, hx⟩

theorem lowerFrom_of_lt (h : ∀ c ∈ cs, c.toNat < 0x80) (before : List Char) :
    lowerFrom before cs = cs.map Char.toLower := by
  induction cs generalizing before with
  | nil => rfl
  | cons c cs ih =>
    rw [List.forall_mem_cons] at h
    have hc : ¬(c == 'Σ') = true := by
      intro he
      rw [eq_of_beq he] at h
      exact absurd h.1 (by decide)
    rw [lowerFrom, if_neg hc, lowerChar, if_pos h.1, ih h.2, List.map_cons, List.singleton_append]

theorem toLower_eq_self (h : c.toNat < 0x80) (hu : isUppercase c = false) : c.toLower = c := by
  have ha : ∀ n < 0x80, isUppercase (Char.ofNat n) = false →
      (Char.ofNat n).toLower = Char.ofNat n := by decide
  obtain ⟨n, hn, rfl⟩ := exists_eq_ofNat h
  exact ha n hn hu

theorem upperChar_toLower (h : c.toNat < 0x80) (hu : isUppercase c = true) :
    upperChar c.toLower = [c] := by
  have ha : ∀ n < 0x80, isUppercase (Char.ofNat n) = true →
      upperChar (Char.ofNat n).toLower = [Char.ofNat n] := by decide
  obtain ⟨n, hn, rfl⟩ := exists_eq_ofNat h
  exact ha n hn hu

section Letters

variable {c : Char}

theorem lt_of_isAlpha (h : c.isAlpha = true) : c.toNat < 0x80 := by
  rcases Bool.or_eq_true_iff.1 h with hu | hl
  · have hz : c.val ≤ 'Z'.val := (of_decide_eq_true hu).2
    exact Nat.lt_of_le_of_lt (UInt32.le_iff_toNat_le.1 hz) (by decide)
  · have hz : c.val ≤ 'z'.val := of_decide_eq_true (Bool.and_eq_true_iff.1 hl).2
    exact Nat.lt_of_le_of_lt (UInt32.le_iff_toNat_le.1 hz) (by decide)

theorem isLower_toLower (h : c.isAlpha = true) : c.toLower.isLower = true := by
  have ha : ∀ n < 0x80, (Char.ofNat n).isAlpha = true → (Char.ofNat n).toLower.isLower = true := by
    decide
  obtain ⟨n, hn, rfl⟩ := exists_eq_ofNat (lt_of_isAlpha h)
  exact ha n hn h

theorem isAlpha_of_isLower (h : c.isLower = true) : c.isAlpha = true :=
  Bool.or_eq_true_iff.2 (.inr h)

theorem isUppercase_of_isLower (h : c.isLower = true) : isUppercase c = false := by
  have ha : ∀ n < 0x80, (Char.ofNat n).isLower = true → isUppercase (Char.ofNat n) = false := by
    decide
  obtain ⟨n, hn, rfl⟩ := exists_eq_ofNat (lt_of_isAlpha (isAlpha_of_isLower h))
  exact ha n hn h

theorem exists_capital (h : c.isLower = true) :
    ∃ d, upperChar c = [d] ∧ isUppercase d = true ∧ d.isAlpha = true ∧ d.toLower = c := by
  have ha : ∀ n < 0x80, (Char.ofNat n).isLower = true →
      upperChar (Char.ofNat n) = [(Char.ofNat n).toUpper] ∧
        isUppercase (Char.ofNat n).toUpper = true ∧ (Char.ofNat n).toUpper.isAlpha = true ∧
        (Char.ofNat n).toUpper.toLower = Char.ofNat n := by
    decide
  obtain ⟨n, hn, rfl⟩ := exists_eq_ofNat (lt_of_isAlpha (isAlpha_of_isLower h))
  exact ⟨_, ha n hn h⟩

end Letters

end TripleSlash.Unicode
