import Mathlib.Order.Bounds.Basic
import TripleSlash.Proofs.Comment.Insertion

namespace TripleSlash.Comment

/-- The indices of the nodes that satisfy `p`. -/
def places (e : Comment) (p : Node → Prop) : Set Nat := {i | ∃ n, e[i]? = some n ∧ p n}

section

variable {c A B : Comment} {x : Node} {p : Node → Prop} {i : Nat}

theorem nonempty_places_iff : (places c p).Nonempty ↔ ∃ n ∈ c, p n := by
  constructor
  · rintro ⟨i, n, hn, hp⟩
    exact ⟨n, List.mem_of_getElem? hn, hp⟩
  · rintro ⟨n, hn, hp⟩
    obtain ⟨i, hi⟩ := List.getElem?_of_mem hn
    exact ⟨i, n, hi, hp⟩

theorem places_eq_empty_iff : places c p = ∅ ↔ ∀ n ∈ c, ¬p n := by
  rw [← Set.not_nonempty_iff_eq_empty, nonempty_places_iff, not_exists]
  exact forall_congr' fun n => not_and

theorem length_mem_places (hx : p x) : A.length ∈ places (A ++ x :: B) p :=
  ⟨x, by simp, hx⟩

theorem exists_cut_of_mem_places (h : i ∈ places c p) :
    ∃ A x B, c = A ++ x :: B ∧ A.length = i ∧ p x := by
  obtain ⟨x, hx, hp⟩ := h
  obtain ⟨hi, he⟩ := List.getElem?_eq_some_iff.1 hx
  refine ⟨c.take i, x, c.drop (i + 1), ?_, List.length_take_of_le (Nat.le_of_lt hi), hp⟩
  rw [← he, List.getElem_cons_drop, List.take_append_drop]

theorem isLeast_places_iff :
    IsLeast (places c p) i ↔
      ∃ A x B, c = A ++ x :: B ∧ A.length = i ∧ p x ∧ ∀ n ∈ A, ¬p n := by
  constructor
  · rintro ⟨hi, hl⟩
    obtain ⟨A, x, B, rfl, rfl, hx⟩ := exists_cut_of_mem_places hi
    refine ⟨A, x, B, rfl, rfl, hx, ?_⟩
    intro n hn hp
    obtain ⟨j, hj⟩ := List.getElem?_of_mem hn
    obtain ⟨hlt, -⟩ := List.getElem?_eq_some_iff.1 hj
    have hm : j ∈ places (A ++ x :: B) p := ⟨n, (List.getElem?_append_left hlt).trans hj, hp⟩
    exact Nat.not_le_of_gt hlt (hl hm)
  · rintro ⟨A, x, B, rfl, rfl, hx, hA⟩
    refine ⟨length_mem_places hx, ?_⟩
    rintro j ⟨n, hn, hp⟩
    apply Nat.le_of_not_lt
    intro hj
    rw [List.getElem?_append_left hj] at hn
    exact hA n (List.mem_of_getElem? hn) hp

theorem isGreatest_places_iff :
    IsGreatest (places c p) i ↔
      ∃ A x B, c = A ++ x :: B ∧ A.length = i ∧ p x ∧ ∀ n ∈ B, ¬p n := by
  constructor
  · rintro ⟨hi, hg⟩
    obtain ⟨A, x, B, rfl, rfl, hx⟩ := exists_cut_of_mem_places hi
    refine ⟨A, x, B, rfl, rfl, hx, ?_⟩
    intro n hn hp
    obtain ⟨j, hj⟩ := List.getElem?_of_mem hn
    have hm : A.length + 1 + j ∈ places (A ++ x :: B) p := by
      refine ⟨n, ?_, hp⟩
      rw [List.append_cons, List.getElem?_append_right (by simp)]
      simpa using hj
    have hle := hg hm
    omega
  · rintro ⟨A, x, B, rfl, rfl, hx, hB⟩
    refine ⟨length_mem_places hx, ?_⟩
    rintro j ⟨n, hn, hp⟩
    apply Nat.le_of_not_lt
    intro hj
    rw [List.append_cons, List.getElem?_append_right (by simpa using Nat.succ_le_of_lt hj)] at hn
    exact hB n (List.mem_of_getElem? hn) hp

end

section

variable {c : Comment} {declared : List String} {target i : Nat}

theorem fallback_iff :
    Fallback c i ↔
      IsGreatest (c.places (·.kind = .typeParam)) i ∨ c.places (·.kind = .typeParam) = ∅ ∧
        (IsLeast (c.places (·.kind = .summary)) i ∨ c.places (·.kind = .summary) = ∅ ∧
          IsLeast (c.places (·.isContent = true)) i) := by
  simp only [isGreatest_places_iff, isLeast_places_iff, places_eq_empty_iff, Bool.not_eq_true]
  constructor
  · intro h
    cases h with
    | typeParam hx hB => exact .inl ⟨_, _, _, rfl, rfl, hx, hB⟩
    | summary ht hx hA => exact .inr ⟨ht, .inl ⟨_, _, _, rfl, rfl, hx, hA⟩⟩
    | content hk hx hA =>
      have ht := fun n hn => (hk n hn).1
      have hs := fun n hn => (hk n hn).2
      exact .inr ⟨ht, .inr ⟨hs, _, _, _, rfl, rfl, hx, hA⟩⟩
  · intro h
    rcases h with ⟨A, x, B, rfl, rfl, hx, hB⟩ | ⟨ht, h⟩
    · exact .typeParam hx hB
    · rcases h with ⟨A, x, B, rfl, rfl, hx, hA⟩ | ⟨hs, A, x, B, rfl, rfl, hx, hA⟩
      · exact .summary ht hx hA
      · exact .content (fun n hn => ⟨ht n hn, hs n hn⟩) hx hA

theorem placed_before_iff :
    Placed declared target c (.before i) ↔
      IsLeast (c.places (·.isLater declared target = true)) i := by
  simp only [isLeast_places_iff, Bool.not_eq_true]
  constructor
  · intro h
    cases h with
    | before hA hx => exact ⟨_, _, _, rfl, rfl, hx, hA⟩
  · rintro ⟨A, x, B, rfl, rfl, hx, hA⟩
    exact .before hA hx

theorem placed_after_iff :
    Placed declared target c (.after i) ↔
      c.places (·.isLater declared target = true) = ∅ ∧
        (IsGreatest (c.places (·.isNamed = true)) i ∨ c.places (·.isNamed = true) = ∅ ∧
          Fallback c i) := by
  simp only [isGreatest_places_iff, places_eq_empty_iff, Bool.not_eq_true]
  constructor
  · intro h
    cases h with
    | after hl hx hB => exact ⟨hl, .inl ⟨_, _, _, rfl, rfl, hx, hB⟩⟩
    | first hn hi =>
      have hl : ∀ n ∈ c, n.isLater declared target = false :=
        fun n hm => Node.not_isLater_of_not_isNamed (hn n hm)
      exact ⟨hl, .inr ⟨hn, fallback?_eq_some_iff.1 hi⟩⟩
  · rintro ⟨hl, h⟩
    rcases h with ⟨A, x, B, rfl, rfl, hx, hB⟩ | ⟨hn, hi⟩
    · exact .after hl hx hB
    · exact .first hn hi.fallback?

end

/-- Whether a new element goes behind the node at the index if no later parameter is documented:
the last named parameter element, else the last type parameter, else the first summary, else the
first element. -/
def IsRear (c : Comment) (i : Nat) : Prop :=
  IsGreatest (c.places (·.isNamed = true)) i ∨ c.places (·.isNamed = true) = ∅ ∧
    (IsGreatest (c.places (·.kind = .typeParam)) i ∨ c.places (·.kind = .typeParam) = ∅ ∧
      (IsLeast (c.places (·.kind = .summary)) i ∨ c.places (·.kind = .summary) = ∅ ∧
        IsLeast (c.places (·.isContent = true)) i))

section

variable {c : Comment} {declared : List String} {target i : Nat}

theorem anchor?_eq_before_iff :
    c.anchor? declared target = some (.before i) ↔
      IsLeast (c.places (·.isLater declared target = true)) i :=
  anchor?_eq_some_iff.trans placed_before_iff

theorem anchor?_eq_after_iff :
    c.anchor? declared target = some (.after i) ↔
      c.places (·.isLater declared target = true) = ∅ ∧ c.IsRear i := by
  rw [anchor?_eq_some_iff, placed_after_iff, fallback_iff]
  rfl

theorem exists_anchor?_eq_before_iff :
    (∃ i, c.anchor? declared target = some (.before i)) ↔
      ∃ n ∈ c, n.isLater declared target = true := by
  constructor
  · rintro ⟨i, hi⟩
    exact nonempty_places_iff.1 ⟨i, (anchor?_eq_before_iff.1 hi).1⟩
  · rintro ⟨n, hn, hl⟩
    cases ha : c.anchor? declared target with
    | none =>
      have hc := anchor?_eq_none_iff.1 ha n hn
      rw [Node.isContent_of_isNamed (Node.isNamed_of_isLater hl)] at hc
      cases hc
    | some a =>
      cases a with
      | before i => exact ⟨i, rfl⟩
      | after i => exact (places_eq_empty_iff.1 (anchor?_eq_after_iff.1 ha).1 n hn hl).elim

/-- What stands before a new element is not declared later; if nothing is, no named parameter
element stands behind it. -/
theorem exists_cut_of_anchor? (h : c.anchor? declared target = some a) (n : Node) :
    ∃ A B, c = A ++ B ∧ Between n A B (c.splice a n) ∧
      (∀ m ∈ A, m.isLater declared target = false) ∧
      ((∀ m ∈ c, m.isLater declared target = false) → ∀ m ∈ B, m.isNamed = false) := by
  obtain ⟨A, B, hc, hb, hA, hB⟩ := (anchor?_eq_some_iff.1 h).exists_cut n
  refine ⟨A, B, hc, hb, hA, ?_⟩
  intro hl
  rcases hB with hB | ⟨x, C, rfl, hx⟩
  · exact hB
  · have hx' := hl x (by simp [hc])
    rw [hx] at hx'
    cases hx'

end

/-- Where a new element goes, by the places of the nodes alone, and what stands before and behind it
then. -/
theorem anchor?_iff_places (c : Comment) (declared : List String) (target : Nat) :
    (c.anchor? declared target = none ↔ ∀ n ∈ c, n.isContent = false) ∧
      ((∃ i, c.anchor? declared target = some (.before i)) ↔
        ∃ n ∈ c, n.isLater declared target = true) ∧
      (∀ i, c.anchor? declared target = some (.before i) ↔
        IsLeast (c.places (·.isLater declared target = true)) i) ∧
      (∀ i, c.anchor? declared target = some (.after i) ↔
        c.places (·.isLater declared target = true) = ∅ ∧ c.IsRear i) ∧
      ∀ a n, c.anchor? declared target = some a →
        ∃ A B, c = A ++ B ∧ Between n A B (c.splice a n) ∧
          (∀ m ∈ A, m.isLater declared target = false) ∧
          ((∀ m ∈ c, m.isLater declared target = false) → ∀ m ∈ B, m.isNamed = false) := by
  refine ⟨anchor?_eq_none_iff, exists_anchor?_eq_before_iff, ?_, ?_, ?_⟩
  · intro i
    exact anchor?_eq_before_iff
  · intro i
    exact anchor?_eq_after_iff
  · intro a n ha
    exact exists_cut_of_anchor? ha n

theorem anchor?_iff_places_disordered :
    let c : Comment := [.param (some "b") [], .newLine, .param none [], .newLine,
      .param (some "old") [], .newLine, .summary []]
    let declared := ["a", "b", "b"]
    let n : Node := .param (some "a") []
    c.anchor? declared 0 = some (.before 0) ∧
      IsLeast (c.places (·.isLater declared 0 = true)) 0 ∧
      c.anchor? declared 7 = some (.after 4) ∧ c.IsRear 4 ∧
      ∃ A B, c = A ++ B ∧ Between n A B (c.splice (.after 4) n) ∧ ∀ m ∈ B, m.isNamed = false := by
  intro c declared n
  obtain ⟨-, -, hbefore, -, -⟩ := anchor?_iff_places c declared 0
  obtain ⟨-, -, -, hafter, hcut⟩ := anchor?_iff_places c declared 7
  have hb : c.anchor? declared 0 = some (.before 0) := by decide
  have ha : c.anchor? declared 7 = some (.after 4) := by decide
  obtain ⟨hl, hr⟩ := (hafter 4).1 ha
  obtain ⟨A, B, hc, hi, -, hB⟩ := hcut (.after 4) n ha
  have hl' : ∀ m ∈ c, m.isLater declared 7 = false := by decide
  exact ⟨hb, (hbefore 0).1 hb, ha, hr, A, B, hc, hi, hB hl'⟩

end TripleSlash.Comment
