import Mathlib.Data.List.Basic
import TripleSlash.Comment.Placement

namespace TripleSlash

namespace Node

/-- Whether this is a parameter element that has a name. -/
def isNamed (n : Node) : Bool := n.paramName?.isSome

/-- Whether the node documents a parameter that is declared after the one at `target`. -/
def isLater (declared : List String) (target : Nat) (n : Node) : Bool :=
  n.paramName?.any fun name => (declared.idxOf? name).any (target < ·)

@[simp] theorem isNamed_newLine : newLine.isNamed = false := rfl

theorem isNamed_of_isLater (h : isLater declared target n = true) : n.isNamed = true := by
  cases hn : n.paramName? with
  | none => simp [isLater, hn] at h
  | some name => simp [isNamed, hn]

theorem not_isLater_of_not_isNamed (h : n.isNamed = false) :
    isLater declared target n = false := by
  cases hl : isLater declared target n with
  | false => rfl
  | true => rw [isNamed_of_isLater hl] at h; exact h

theorem isLater_mono (hi : i ≤ j) (h : isLater declared j n = true) :
    isLater declared i n = true := by
  simp only [isLater, Option.any_eq_true, decide_eq_true_eq] at *
  obtain ⟨name, hn, k, hk, hj⟩ := h
  exact ⟨name, hn, k, hk, Nat.lt_of_le_of_lt hi hj⟩

theorem isContent_iff : isContent n = true ↔ n.kind ≠ .newLine := by
  cases n <;> simp [isContent, kind]

theorem not_isNamed_of_not_isContent (h : isContent n = false) : n.isNamed = false := by
  cases n with
  | newLine => rfl
  | _ => cases h

theorem not_isNamed_of_kind (h : kind n ≠ .param) : n.isNamed = false := by
  cases n with
  | param => exact (h rfl).elim
  | _ => rfl

theorem isContent_of_isNamed (h : isNamed n = true) : n.isContent = true := by
  by_contra hc
  rw [not_isNamed_of_not_isContent (Bool.of_not_eq_true hc)] at h
  cases h

theorem isLater_ofParameter (h : declared.idxOf? p.name = some i) (target : Nat) :
    isLater declared target (ofParameter p) = decide (target < i) := by
  simp [isLater, ofParameter, paramName?, h]

end Node

namespace Comment

/-- The named parameter elements of a part of a comment that starts at the place `k`. -/
def namedParamsFrom (k : Nat) (c : Comment) : List (String × Nat) :=
  (c.zipIdx k).filterMap fun (n, i) => n.paramName?.map (·, i)

theorem namedParams_append (c e : Comment) :
    namedParams (c ++ e) = namedParams c ++ namedParamsFrom c.length e := by
  simp [namedParams, namedParamsFrom, List.zipIdx_append]

theorem namedParamsFrom_cons (hx : x.paramName? = some name) (k : Nat) (c : Comment) :
    namedParamsFrom k (x :: c) = (name, k) :: namedParamsFrom (k + 1) c := by
  simp [namedParamsFrom, hx]

theorem namedParamsFrom_eq_nil (h : ∀ n ∈ c, n.isNamed = false) (k : Nat) :
    namedParamsFrom k c = [] := by
  rw [namedParamsFrom, List.filterMap_eq_nil_iff]
  rintro ⟨n, i⟩ hn
  have hn' := h n (List.fst_mem_of_mem_zipIdx hn)
  simpa [Node.isNamed] using hn'

theorem find_namedParams_eq_none (h : ∀ n ∈ c, n.isLater declared target = false) :
    (namedParams c).find? (fun (name, _) => (declared.idxOf? name).any (target < ·)) = none := by
  rw [List.find?_eq_none]
  rintro ⟨name, i⟩ hm
  obtain ⟨⟨n, j⟩, hn, hj⟩ := List.mem_filterMap.1 hm
  obtain ⟨name', hname, he⟩ := Option.map_eq_some_iff.1 hj
  cases he
  have hl := h n (List.fst_mem_of_mem_zipIdx hn)
  simpa [Node.isLater, hname] using hl

/-- The place of a new element: before the first node that is declared later, else after the last
named parameter element, else where the first parameter element goes. -/
inductive Placed (declared : List String) (target : Nat) : Comment → Anchor → Prop
  | before : (∀ n ∈ A, n.isLater declared target = false) → x.isLater declared target = true →
      Placed declared target (A ++ x :: B) (.before A.length)
  | after : (∀ n ∈ A ++ x :: B, n.isLater declared target = false) → x.isNamed = true →
      (∀ n ∈ B, n.isNamed = false) → Placed declared target (A ++ x :: B) (.after A.length)
  | first : (∀ n ∈ c, n.isNamed = false) → c.fallback? = some i →
      Placed declared target c (.after i)

theorem Placed.anchor? (h : Placed declared target c a) :
    c.anchor? declared target = some a := by
  cases h with
  | @before A x B hA hx =>
    obtain ⟨name, hn, hl⟩ := (Option.any_eq_true _ _).1 hx
    have hf : (namedParams (A ++ x :: B)).find?
        (fun (name, _) => (declared.idxOf? name).any (target < ·)) = some (name, A.length) := by
      rw [namedParams_append, namedParamsFrom_cons hn, List.find?_append,
        find_namedParams_eq_none hA]
      simp only [List.find?_cons, hl, Option.none_or]
    simp only [Comment.anchor?, hf]
  | @after A x B hl hx hB =>
    obtain ⟨name, hn⟩ := Option.isSome_iff_exists.1 hx
    have hg : (namedParams (A ++ x :: B)).getLast? = some (name, A.length) := by
      rw [namedParams_append, namedParamsFrom_cons hn, namedParamsFrom_eq_nil hB]
      simp only [List.getLast?_append, List.getLast?_singleton, Option.some_or]
    simp only [Comment.anchor?, find_namedParams_eq_none hl, hg]
    rfl
  | first hc hi =>
    have hg : c.namedParams = [] := namedParamsFrom_eq_nil hc 0
    simp [Comment.anchor?, hg, hi]

theorem mem_positions : i ∈ positions e k ↔ ∃ n, e[i]? = some n ∧ n.kind = k := by
  simp [positions, List.mem_zipIdx_iff_getElem?]

theorem fallback?_of_typeParam (hx : x.kind = .typeParam) (hB : ∀ n ∈ B, n.kind ≠ .typeParam) :
    fallback? (A ++ x :: B) = some A.length := by
  have hb : (List.zipIdx B (A.length + 1)).filter (·.1.kind == .typeParam) = [] := by
    rw [List.filter_eq_nil_iff]
    rintro ⟨n, i⟩ hn
    simpa using hB n (List.fst_mem_of_mem_zipIdx hn)
  have hl : (positions (A ++ x :: B) .typeParam).getLast? = some A.length := by
    simp [positions, List.zipIdx_append, List.filter_append, hx, hb]
  simp [fallback?, hl]

theorem positions_eq_nil (h : ∀ n ∈ c, n.kind ≠ k) : positions c k = [] := by
  rw [List.eq_nil_iff_forall_not_mem]
  intro i hi
  obtain ⟨n, hn, hk⟩ := mem_positions.1 hi
  exact h n (List.mem_of_getElem? hn) hk

theorem fallback?_of_summary (ht : ∀ n ∈ A ++ x :: B, n.kind ≠ .typeParam)
    (hx : x.kind = .summary) (hA : ∀ n ∈ A, n.kind ≠ .summary) :
    fallback? (A ++ x :: B) = some A.length := by
  have ha : (List.zipIdx A).filter (·.1.kind == .summary) = [] := by
    rw [List.filter_eq_nil_iff]
    rintro ⟨n, i⟩ hn
    simpa using hA n (List.fst_mem_of_mem_zipIdx hn)
  have hh : (positions (A ++ x :: B) .summary).head? = some A.length := by
    simp [positions, List.zipIdx_append, List.filter_append, hx, ha]
  simp [fallback?, positions_eq_nil ht, hh]

theorem fallback?_of_content (hk : ∀ n ∈ A ++ x :: B, n.kind ≠ .typeParam ∧ n.kind ≠ .summary)
    (hx : x.isContent = true) (hA : ∀ n ∈ A, n.isContent = false) :
    fallback? (A ++ x :: B) = some A.length := by
  have hi : (A ++ x :: B).findIdx? Node.isContent = some A.length := by
    rw [List.findIdx?_append, List.findIdx?_eq_none_iff.2 hA]
    simp [List.findIdx?_cons, hx]
  simp [fallback?, positions_eq_nil fun n hn => (hk n hn).1,
    positions_eq_nil fun n hn => (hk n hn).2, hi]

theorem fallback?_getElem? (h : fallback? e = some i) :
    ∃ n, e[i]? = some n ∧ n.isContent = true := by
  simp only [fallback?, Option.orElse_eq_orElse, Option.orElse_eq_or, Option.or_eq_some_iff] at h
  rcases h with h | ⟨-, h | ⟨-, h⟩⟩
  · obtain ⟨n, hn, hk⟩ := mem_positions.1 (List.mem_of_getLast? h)
    exact ⟨n, hn, Node.isContent_iff.2 (by simp [hk])⟩
  · obtain ⟨n, hn, hk⟩ := mem_positions.1 (List.mem_of_head? h)
    exact ⟨n, hn, Node.isContent_iff.2 (by simp [hk])⟩
  · obtain ⟨hi, hn, -⟩ := List.findIdx?_eq_some_iff_getElem.1 h
    exact ⟨e[i], List.getElem?_eq_getElem hi, hn⟩

theorem fallback?_eq_none_iff : fallback? c = none ↔ ∀ n ∈ c, n.isContent = false := by
  constructor
  · intro h
    simp only [fallback?, Option.orElse_eq_orElse, Option.orElse_eq_or, Option.or_eq_none_iff] at h
    exact List.findIdx?_eq_none_iff.1 h.2.2
  · intro h
    cases hf : fallback? c with
    | none => rfl
    | some i =>
      obtain ⟨n, hn, hc⟩ := fallback?_getElem? hf
      rw [h n (List.mem_of_getElem? hn)] at hc
      cases hc

/-- The place of the element behind which the first parameter element goes: the last type
parameter, else the first summary, else the first element. -/
inductive Fallback : Comment → Nat → Prop
  | typeParam {A B : Comment} {x : Node} : x.kind = .typeParam → (∀ n ∈ B, n.kind ≠ .typeParam) →
      Fallback (A ++ x :: B) A.length
  | summary {A B : Comment} {x : Node} : (∀ n ∈ A ++ x :: B, n.kind ≠ .typeParam) →
      x.kind = .summary → (∀ n ∈ A, n.kind ≠ .summary) → Fallback (A ++ x :: B) A.length
  | content {A B : Comment} {x : Node} :
      (∀ n ∈ A ++ x :: B, n.kind ≠ .typeParam ∧ n.kind ≠ .summary) → x.isContent = true →
      (∀ n ∈ A, n.isContent = false) → Fallback (A ++ x :: B) A.length

theorem Fallback.fallback? (h : Fallback c i) : c.fallback? = some i := by
  cases h with
  | typeParam hx hB => exact fallback?_of_typeParam hx hB
  | summary ht hx hA => exact fallback?_of_summary ht hx hA
  | content hk hx hA => exact fallback?_of_content hk hx hA

theorem exists_last {p : Node → Bool} (h : ∃ n ∈ c, p n = true) :
    ∃ A x B, c = A ++ x :: B ∧ p x = true ∧ ∀ n ∈ B, p n = false := by
  obtain ⟨n, hn, hp⟩ := h
  obtain ⟨x, hx⟩ : ∃ x, c.reverse.find? p = some x :=
    Option.isSome_iff_exists.1 (List.find?_isSome.2 ⟨n, List.mem_reverse.2 hn, hp⟩)
  obtain ⟨hpx, B, A, he, hB⟩ := List.find?_eq_some_iff_append.1 hx
  refine ⟨A.reverse, x, B.reverse, ?_, hpx, fun n hn => ?_⟩
  · rw [← List.reverse_reverse c, he]
    simp
  · simpa using hB n (List.mem_reverse.1 hn)

theorem exists_fallback (h : ∃ n ∈ c, n.isContent = true) : ∃ i, Fallback c i := by
  by_cases ht : ∃ n ∈ c, (n.kind == .typeParam) = true
  · obtain ⟨A, x, B, rfl, hx, hB⟩ := exists_last ht
    exact ⟨_, .typeParam (eq_of_beq hx) fun n hn => by simpa using hB n hn⟩
  · have ht' : ∀ n ∈ c, n.kind ≠ .typeParam := by simpa using ht
    cases hs : c.find? (·.kind == .summary) with
    | some x =>
      obtain ⟨hx, A, B, rfl, hA⟩ := List.find?_eq_some_iff_append.1 hs
      exact ⟨_, .summary ht' (eq_of_beq hx) fun n hn => by simpa using hA n hn⟩
    | none =>
      have hs' : ∀ n ∈ c, n.kind ≠ .summary := by simpa using hs
      obtain ⟨x, hx⟩ := Option.isSome_iff_exists.1 (List.find?_isSome.2 h)
      obtain ⟨hc, A, B, rfl, hA⟩ := List.find?_eq_some_iff_append.1 hx
      exact ⟨_, .content (fun n hn => ⟨ht' n hn, hs' n hn⟩) hc fun n hn => by simpa using hA n hn⟩

theorem fallback?_eq_some_iff : fallback? c = some i ↔ Fallback c i := by
  constructor
  · intro h
    obtain ⟨n, hn, hc⟩ := fallback?_getElem? h
    obtain ⟨j, hj⟩ := exists_fallback ⟨n, List.mem_of_getElem? hn, hc⟩
    have he := hj.fallback?.symm.trans h
    cases he
    exact hj
  · exact Fallback.fallback?

theorem exists_placed (declared : List String) (target : Nat)
    (h : ∃ n ∈ c, n.isContent = true) : ∃ a, Placed declared target c a := by
  cases hl : c.find? (Node.isLater declared target) with
  | some x =>
    obtain ⟨hx, A, B, rfl, hA⟩ := List.find?_eq_some_iff_append.1 hl
    exact ⟨_, .before (fun n hn => by simpa using hA n hn) hx⟩
  | none =>
    have hl' : ∀ n ∈ c, n.isLater declared target = false := fun n hn => by
      simpa using List.find?_eq_none.1 hl n hn
    by_cases hn : ∃ n ∈ c, n.isNamed = true
    · obtain ⟨A, x, B, rfl, hx, hB⟩ := exists_last hn
      exact ⟨_, .after hl' hx hB⟩
    · have hn' : ∀ n ∈ c, n.isNamed = false := by simpa using hn
      obtain ⟨i, hi⟩ := exists_fallback h
      exact ⟨_, .first hn' hi.fallback?⟩

theorem anchor?_eq_none_iff :
    anchor? c declared target = none ↔ ∀ n ∈ c, n.isContent = false := by
  constructor
  · intro h n hn
    cases hc : n.isContent with
    | false => rfl
    | true =>
      obtain ⟨a, ha⟩ := exists_placed declared target ⟨n, hn, hc⟩
      rw [ha.anchor?] at h
      cases h
  · intro h
    have hn : ∀ n ∈ c, n.isNamed = false := fun n hm => Node.not_isNamed_of_not_isContent (h n hm)
    have hp : c.namedParams = [] := namedParamsFrom_eq_nil hn 0
    simp [Comment.anchor?, hp, fallback?_eq_none_iff.2 h]

theorem anchor?_eq_some_iff :
    anchor? c declared target = some a ↔ Placed declared target c a := by
  constructor
  · intro h
    have hc : ∃ n ∈ c, n.isContent = true := by
      by_contra hc
      have hn : anchor? c declared target = none := anchor?_eq_none_iff.2 fun n hn => by
        simpa using fun hc' => hc ⟨n, hn, hc'⟩
      rw [hn] at h
      cases h
    obtain ⟨b, hb⟩ := exists_placed declared target hc
    have he := hb.anchor?.symm.trans h
    cases he
    exact hb
  · exact Placed.anchor?

@[simp] theorem splice_before (A B : Comment) (x n : Node) :
    splice (A ++ x :: B) (.before A.length) n = A ++ n :: .newLine :: x :: B := by
  simp [splice, insertAt]

@[simp] theorem splice_after (A B : Comment) (x n : Node) :
    splice (A ++ x :: B) (.after A.length) n = A ++ x :: .newLine :: n :: B := by
  simp [splice, insertAt, List.take_append, List.take_of_length_le]

end Comment

end TripleSlash
