import TripleSlash.Files.Tree

namespace TripleSlash.Tree

variable {t new : Tree} {es fs : List (String × Tree)} {ws vs : List String}

theorem at?_cons (es : List (String × Tree)) (n : String) (ns : List String) :
    (directory es).at? (n :: ns) = (es.lookup n).bind (·.at? ns) :=
  rfl

theorem at?_append (t : Tree) (ws vs : List String) :
    t.at? (ws ++ vs) = (t.at? ws).bind (·.at? vs) := by
  induction ws generalizing t with
  | nil => rw [List.nil_append, at?, Option.bind_some]
  | cons n ns ih =>
    cases t with
    | file => rfl
    | directory es =>
      rw [List.cons_append, at?_cons, at?_cons, Option.bind_assoc]
      exact Option.bind_congr fun u _ => ih u

theorem at?_append_singleton (h : t.at? ws = some (.directory es)) (n : String) :
    t.at? (ws ++ [n]) = es.lookup n := by
  rw [at?_append, h, Option.bind_some, at?_cons]
  exact Option.bind_fun_some _

theorem not_prefix_of_directory (hn : ∀ fs, t.at? ws ≠ some (.directory fs))
    (h : t.at? vs = some (.directory es)) : ¬ws <+: vs := by
  rintro ⟨rest, rfl⟩
  rw [at?_append] at h
  obtain ⟨u, hu, h⟩ := Option.bind_eq_some_iff.1 h
  cases u with
  | directory fs => exact hn fs hu
  | file =>
    cases rest with
    | nil => cases h
    | cons => cases h

theorem lookup_map_if (es : List (String × Tree)) (g : Tree → Tree) (n m : String) :
    (es.map fun (k, t) => if k == n then (k, g t) else (k, t)).lookup m =
      if m = n then (es.lookup m).map g else es.lookup m := by
  induction es with
  | nil => simp
  | cons e es ih =>
    obtain ⟨k, t⟩ := e
    by_cases hk : k = n
    · by_cases hm : m = k
      · simp [hk, hm]
      · have hn : m ≠ n := fun h => hm (h.trans hk.symm)
        simpa [hk, hn, List.lookup_cons, beq_eq_false_iff_ne.2 hn] using ih
    · by_cases hm : m = k
      · simp [hk, hm]
      · simpa [hk, hm, List.lookup_cons, beq_eq_false_iff_ne.2 hm] using ih

/-- The entries of a directory when something was put below one of them; what is missing on the way
is made. -/
theorem exists_put_cons (es : List (String × Tree)) (new : Tree) (n : String) (ns : List String) :
    ∃ fs, (directory es).put new (n :: ns) = .directory fs ∧
      ∀ m, fs.lookup m =
        if m = n then some (((es.lookup n).getD (.directory [])).put new ns) else es.lookup m := by
  cases hl : es.lookup n with
  | none =>
    refine ⟨es ++ [(n, (directory []).put new ns)], by simp [put, hl], fun m => ?_⟩
    rw [List.lookup_append]
    by_cases hm : m = n
    · simp [hm, hl]
    · simp [hm, List.lookup_cons, beq_eq_false_iff_ne.2 hm]
  | some u =>
    refine ⟨_, by rw [put, if_pos (by rw [hl]; rfl)], fun m => ?_⟩
    refine (lookup_map_if es (·.put new ns) n m).trans ?_
    split
    case isTrue hm => rw [hm, hl, Option.map_some, Option.getD_some]
    case isFalse => rfl

theorem at?_put_cons (es : List (String × Tree)) (new : Tree) (n : String) (ns : List String)
    (m : String) (ms : List String) :
    ((directory es).put new (n :: ns)).at? (m :: ms) =
      if m = n then (((es.lookup n).getD (.directory [])).put new ns).at? ms
      else (directory es).at? (m :: ms) := by
  obtain ⟨fs, he, hl⟩ := exists_put_cons es new n ns
  rw [he, at?_cons, hl, at?_cons]
  split <;> rfl

theorem exists_at?_put (new : Tree) (hp : ¬ws <+: vs) (h : t.at? vs = some (.directory es)) :
    ∃ fs, (t.put new ws).at? vs = some (.directory fs) ∧
      ∀ m, (es.lookup m).isSome → (fs.lookup m).isSome := by
  induction ws generalizing t vs with
  | nil => exact (hp List.nil_prefix).elim
  | cons n ns ih =>
    cases t with
    | file => exact ⟨es, h, fun _ hm => hm⟩
    | directory gs =>
      cases vs with
      | nil =>
        cases h
        obtain ⟨fs, he, hl⟩ := exists_put_cons es new n ns
        refine ⟨fs, by rw [he, at?], fun m hm => ?_⟩
        rw [hl]
        split
        · rfl
        · exact hm
      | cons m ms =>
        rw [at?_put_cons]
        split
        case isFalse => exact ⟨es, h, fun _ hm => hm⟩
        case isTrue hm =>
          subst hm
          obtain ⟨u, hu, hd⟩ := Option.bind_eq_some_iff.1 h
          rw [hu, Option.getD_some]
          exact ih (fun hq => hp (List.cons_prefix_cons.2 ⟨rfl, hq⟩)) hd

/-- The content of the file at the end of a way of names. -/
def content? (t : Tree) (way : List String) : Option ByteArray :=
  match t.at? way with
  | some (.file content) => some content
  | _ => none

theorem content?_empty (way : List String) : (directory []).content? way = none := by
  cases way <;> rfl

theorem content?_cons (es : List (String × Tree)) (n : String) (ns : List String) :
    (directory es).content? (n :: ns) = (es.lookup n).bind (·.content? ns) := by
  rw [content?, at?_cons]
  cases es.lookup n <;> rfl

theorem content?_put_cons (es : List (String × Tree)) (new : Tree) (n : String) (ns : List String)
    (m : String) (ms : List String) :
    ((directory es).put new (n :: ns)).content? (m :: ms) =
      if m = n then (((es.lookup n).getD (.directory [])).put new ns).content? ms
      else (directory es).content? (m :: ms) := by
  rw [content?, at?_put_cons]
  by_cases hm : m = n
  · rw [if_pos hm, if_pos hm, content?]
  · rw [if_neg hm, if_neg hm, content?]

theorem content?_put_of_not_prefix (new : Tree) (h : ¬ws <+: vs) (t : Tree) :
    (t.put new ws).content? vs = t.content? vs := by
  induction ws generalizing t vs with
  | nil => exact (h (List.nil_prefix)).elim
  | cons n ns ih =>
    cases t with
    | file => rfl
    | directory es =>
      cases vs with
      | nil =>
        obtain ⟨fs, he, -⟩ := exists_put_cons es new n ns
        rw [he]
        rfl
      | cons m ms =>
        rw [content?_put_cons]
        split
        case isFalse => rfl
        case isTrue hm =>
          rw [ih fun hp => h (List.cons_prefix_cons.2 ⟨hm.symm, hp⟩), content?_cons, hm]
          cases es.lookup n with
          | none => exact content?_empty ms
          | some u => rfl

theorem content?_of_put_append (h : (t.put new ws).content? (ws ++ vs) = some content) :
    new.content? vs = some content := by
  induction ws generalizing t with
  | nil => exact h
  | cons n ns ih =>
    cases t with
    | file => cases h
    | directory es =>
      rw [List.cons_append, content?_put_cons, if_pos rfl] at h
      exact ih h

theorem content?_append_eq_none (h : t.at? ws = none) (vs : List String) :
    t.content? (ws ++ vs) = none := by
  rw [content?, at?_append, h]
  rfl

theorem content?_put_directory (h : t.at? ws = none) (vs : List String) :
    (t.put (.directory []) ws).content? vs = t.content? vs := by
  by_cases hp : ws <+: vs
  · obtain ⟨rest, rfl⟩ := hp
    rw [content?_append_eq_none h, Option.eq_none_iff_forall_ne_some]
    intro content hc
    have he := content?_of_put_append hc
    rw [content?_empty] at he
    cases he
  · exact content?_put_of_not_prefix _ hp t

/-- Where there is nothing or a file, a file can be put and all other files stay. -/
theorem content?_put_file (h : ∀ es, t.at? ws ≠ some (.directory es)) (hne : vs ≠ ws) :
    (t.put (.file content) ws).content? vs = t.content? vs := by
  by_cases hp : ws <+: vs
  · obtain ⟨rest, rfl⟩ := hp
    obtain ⟨m, ms, rfl⟩ : ∃ m ms, rest = m :: ms :=
      List.exists_cons_of_ne_nil fun hr => hne (by rw [hr, List.append_nil])
    have hnone : t.content? (ws ++ m :: ms) = none := by
      rw [content?, at?_append]
      cases ht : t.at? ws with
      | none => rfl
      | some u =>
        cases u with
        | file => rfl
        | directory es => exact (h es ht).elim
    rw [hnone, Option.eq_none_iff_forall_ne_some]
    intro c hc
    cases content?_of_put_append hc
  · exact content?_put_of_not_prefix _ hp t

theorem at?_put_self (h : t.at? ws = some (.directory es)) (new : Tree) (n : String) :
    (t.put new (ws ++ [n])).at? (ws ++ [n]) = some new := by
  induction ws generalizing t with
  | nil =>
    cases h
    rw [List.nil_append, at?_put_cons, if_pos rfl, put, at?]
  | cons m ms ih =>
    cases t with
    | file => cases h
    | directory fs =>
      obtain ⟨u, hu, hd⟩ := Option.bind_eq_some_iff.1 h
      rw [List.cons_append, at?_put_cons, if_pos rfl, hu, Option.getD_some]
      exact ih hd

end TripleSlash.Tree
