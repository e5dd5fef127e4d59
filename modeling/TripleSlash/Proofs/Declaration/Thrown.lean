import Mathlib.Data.List.Basic
import TripleSlash.Declaration.Basic

namespace TripleSlash

/-- The statements inside a statement: those of a block, and those of a lambda that stands for
itself or is thrown. -/
def Statement.inner : Statement → List Statement
  | .block ss | .expression (.lambda ss) | .throws (some (.lambda ss)) => ss
  | _ => []

/-- Whether the statement stands at the place in the body. A place is the position of a statement
of the body, or such a position and a place in the statements inside. -/
inductive StandsAt : List Statement → List Nat → Statement → Prop
  | here : body[i]? = some s → StandsAt body [i] s
  | inside : body[i]? = some s → StandsAt s.inner place t → StandsAt body (i :: place) t

/-- The type of the new object that the statement itself throws. -/
def Statement.created? : Statement → Option TypeRef
  | .throws (some (.creation t)) => some t
  | _ => none

theorem Statement.created?_eq_some_iff {s : Statement} :
    s.created? = some t ↔ s = .throws (some (.creation t)) := by
  unfold created?
  split
  case h_1 u => simp
  case h_2 h => exact iff_of_false (by simp) (h t)

theorem Statement.thrown_eq (s : Statement) :
    s.thrown = s.created?.toList ++ bodyThrown s.inner := by
  cases s with
  | throws e =>
    cases e with
    | none => rfl
    | some e => cases e <;> rfl
  | expression e => cases e <;> rfl
  | block | other => rfl

theorem bodyThrown_eq_flatMap (body : List Statement) :
    bodyThrown body = body.flatMap Statement.thrown := by
  induction body with
  | nil => rfl
  | cons s ss ih => rw [bodyThrown, ih, List.flatMap_cons]

theorem sizeOf_inner_lt {body : List Statement} (h : s ∈ body) : sizeOf s.inner < sizeOf body := by
  have hs := List.sizeOf_lt_of_mem h
  have hi : sizeOf s.inner ≤ sizeOf s := by
    cases s with
    | throws e =>
      cases e with
      | none => simp [Statement.inner]
      | some e => cases e <;> simp [Statement.inner]; omega
    | expression e => cases e <;> simp [Statement.inner]; omega
    | block | other => simp [Statement.inner]
  omega

/-- What holds of a body when it holds inside all its statements holds of every body. -/
@[elab_as_elim]
theorem body_induction {P : List Statement → Prop}
    (h : ∀ body, (∀ s ∈ body, P s.inner) → P body) (body : List Statement) : P body :=
  h body fun s _ => body_induction h s.inner
termination_by sizeOf body
decreasing_by exact sizeOf_inner_lt ‹_›

/-- The places of the statements that throw new objects, in their order, with the types. -/
structure ListsThrows (body : List Statement) (entries : List (List Nat × TypeRef)) : Prop where
  ordered : entries.Pairwise fun e f => e.1 < f.1
  mem_iff : (place, t) ∈ entries ↔ StandsAt body place (.throws (some (.creation t)))

/-- The entries of a statement at a position: its own, and those of the statements inside. -/
def entriesAt (inner : Statement → List (List Nat × TypeRef)) (s : Statement) (i : Nat) :
    List (List Nat × TypeRef) :=
  s.created?.toList.map (([i], ·)) ++ (inner s).map fun e => (i :: e.1, e.2)

section

variable {inner : Statement → List (List Nat × TypeRef)}

theorem mem_entriesAt : (place, t) ∈ entriesAt inner s i ↔
    place = [i] ∧ s.created? = some t ∨ ∃ p, (p, t) ∈ inner s ∧ place = i :: p := by
  rw [entriesAt, List.mem_append, List.mem_map, List.mem_map]
  refine or_congr ?_ ?_
  · constructor
    · rintro ⟨u, hu, he⟩
      cases he
      exact ⟨rfl, Option.mem_toList.1 hu⟩
    · rintro ⟨rfl, ht⟩
      exact ⟨t, Option.mem_toList.2 ht, rfl⟩
  · constructor
    · rintro ⟨⟨p, u⟩, hu, he⟩
      cases he
      exact ⟨p, hu, rfl⟩
    · rintro ⟨p, ht, rfl⟩
      exact ⟨(p, t), ht, rfl⟩

theorem map_snd_entriesAt (h : bodyThrown s.inner = (inner s).map (·.2)) (i : Nat) :
    (entriesAt inner s i).map (·.2) = s.thrown := by
  rw [entriesAt, List.map_append, List.map_map, List.map_map, Statement.thrown_eq, h]
  exact congrArg (· ++ _) (List.map_id _)

theorem exists_place_of_mem_entriesAt (h : e ∈ entriesAt inner s i) : ∃ p, e.1 = i :: p := by
  rcases mem_entriesAt.1 h with ⟨he, -⟩ | ⟨p, -, he⟩
  · exact ⟨[], he⟩
  · exact ⟨p, he⟩

theorem StandsAt.ne_nil (h : StandsAt body place s) : place ≠ [] := by
  cases h <;> exact List.cons_ne_nil _ _

theorem pairwise_entriesAt (h : ListsThrows s.inner (inner s)) (i : Nat) :
    (entriesAt inner s i).Pairwise fun e f => e.1 < f.1 := by
  rw [entriesAt, List.pairwise_append, List.pairwise_map, List.pairwise_map]
  refine ⟨?_, ?_, ?_⟩
  · cases s.created? <;> simp
  · exact h.ordered.imp fun hlt => List.cons_lt_cons_iff.2 (.inr ⟨rfl, hlt⟩)
  · intro e he f hf
    obtain ⟨t, -, rfl⟩ := List.mem_map.1 he
    obtain ⟨⟨p, u⟩, hp, rfl⟩ := List.mem_map.1 hf
    obtain ⟨j, q, rfl⟩ := List.exists_cons_of_ne_nil (h.mem_iff.1 hp).ne_nil
    exact List.cons_lt_cons_iff.2 (.inr ⟨rfl, List.nil_lt_cons j q⟩)

theorem pairwise_zipIdx (l : List α) (n : Nat) : (l.zipIdx n).Pairwise fun p q => p.2 < q.2 := by
  rw [← List.pairwise_map (f := Prod.snd) (R := (· < ·))]
  rw [List.zipIdx_map_snd]
  exact List.pairwise_lt_range'

theorem listsThrows_of_inner (h : ∀ s ∈ body, ListsThrows s.inner (inner s)) :
    ListsThrows body (body.zipIdx.flatMap fun p => entriesAt inner p.1 p.2) where
  ordered := by
    rw [List.pairwise_flatMap]
    constructor
    · intro p hp
      exact pairwise_entriesAt (h p.1 (List.fst_mem_of_mem_zipIdx hp)) p.2
    · refine (pairwise_zipIdx body 0).imp fun hlt e he f hf => ?_
      obtain ⟨p, hp⟩ := exists_place_of_mem_entriesAt he
      obtain ⟨q, hq⟩ := exists_place_of_mem_entriesAt hf
      rw [hp, hq]
      exact List.cons_lt_cons_iff.2 (.inl hlt)
  mem_iff {place t} := by
    rw [List.mem_flatMap]
    constructor
    · rintro ⟨⟨s, i⟩, hs, he⟩
      rw [List.mk_mem_zipIdx_iff_getElem?] at hs
      rcases mem_entriesAt.1 he with ⟨rfl, ht⟩ | ⟨p, hp, rfl⟩
      · rw [← Statement.created?_eq_some_iff.1 ht]
        exact .here hs
      · exact .inside hs ((h s (List.mem_of_getElem? hs)).mem_iff.1 hp)
    · intro hp
      cases hp with
      | @here _ i _ hs =>
        exact ⟨_, List.mk_mem_zipIdx_iff_getElem?.2 hs,
          mem_entriesAt.2 (.inl ⟨rfl, Statement.created?_eq_some_iff.2 rfl⟩)⟩
      | @inside _ i s p _ hs hp =>
        exact ⟨_, List.mk_mem_zipIdx_iff_getElem?.2 hs,
          mem_entriesAt.2 (.inr ⟨p, (h s (List.mem_of_getElem? hs)).mem_iff.2 hp, rfl⟩)⟩

end

theorem exists_listsThrows (body : List Statement) :
    ∃ entries, bodyThrown body = entries.map (·.2) ∧ ListsThrows body entries := by
  induction body using body_induction with
  | h body ih =>
    choose! inner hthrown hlists using ih
    refine ⟨_, ?_, listsThrows_of_inner hlists⟩
    calc bodyThrown body = body.flatMap Statement.thrown := bodyThrown_eq_flatMap body
      _ = body.zipIdx.flatMap fun p => p.1.thrown := by
        rw [← List.flatMap_map Prod.fst, List.zipIdx_map_fst]
      _ = body.zipIdx.flatMap fun p => (entriesAt inner p.1 p.2).map (·.2) :=
        List.flatMap_congr fun p hp =>
          (map_snd_entriesAt (hthrown p.1 (List.fst_mem_of_mem_zipIdx hp)) p.2).symm
      _ = (body.zipIdx.flatMap fun p => entriesAt inner p.1 p.2).map (·.2) := List.map_flatMap.symm

/-- The thrown types of a declaration are those of the statements of its body that throw new
objects, one for each and in the order of their places. -/
theorem thrown_places (d : Declaration) :
    ∃ entries : List (List Nat × TypeRef), d.thrown = entries.map (·.2) ∧
      (entries.Pairwise fun e f => e.1 < f.1) ∧
      ∀ place t, (place, t) ∈ entries ↔ StandsAt d.body place (.throws (some (.creation t))) := by
  obtain ⟨entries, ht, hl⟩ := exists_listsThrows d.body
  exact ⟨entries, ht, hl.ordered, fun place t => hl.mem_iff⟩

end TripleSlash
