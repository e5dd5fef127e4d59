import TripleSlash.Proofs.Comment.Anchor

namespace TripleSlash

theorem pairwise_append_cons {R : α → α → Prop} {A B : List α} (h : (A ++ B).Pairwise R)
    (hA : ∀ a ∈ A, R a x) (hB : ∀ b ∈ B, R x b) : (A ++ x :: B).Pairwise R := by
  rw [List.pairwise_append] at h
  obtain ⟨hoA, hoB, hAB⟩ := h
  rw [List.pairwise_append, List.pairwise_cons]
  refine ⟨hoA, ⟨hB, hoB⟩, fun a ha b hb => ?_⟩
  rcases List.mem_cons.1 hb with rfl | hb
  · exact hA a ha
  · exact hAB a ha b hb

namespace Declaration

/-- The names of the parameters in the order of declaration, with repetitions. -/
def parameterNames (d : Declaration) : List String := d.parameters.map (·.name)

theorem findParameter?_eq_some {d : Declaration} {n : String}
    (h : d.findParameter? n = some (p, i)) :
    d.parameters[i]? = some p ∧ p.name = n ∧ d.parameterNames.idxOf? n = some i := by
  rw [findParameter?, List.find?_eq_some_iff_getElem] at h
  obtain ⟨hn, j, hj, he, hf⟩ := h
  simp only [List.getElem_zipIdx, Prod.mk.injEq, Nat.zero_add] at he
  obtain ⟨hp, rfl⟩ := he
  simp only [List.length_zipIdx] at hj
  have hn' : p.name = n := by simpa using hn
  refine ⟨hp ▸ List.getElem?_eq_getElem hj, hn', List.idxOf?_eq_some_iff.2 ⟨?_, ?_, ?_⟩⟩
  · simpa [parameterNames] using hj
  · simpa [parameterNames, hp] using hn'
  · intro k hk
    simpa [parameterNames] using hf k hk

theorem exists_findParameter? {d : Declaration} {n : String} (h : n ∈ d.parameterNames) :
    ∃ p i, d.findParameter? n = some (p, i) := by
  cases hf : d.findParameter? n with
  | some r => exact ⟨r.1, r.2, rfl⟩
  | none =>
    obtain ⟨p, hp, rfl⟩ := List.mem_map.1 h
    obtain ⟨i, hi⟩ := List.getElem?_of_mem hp
    have hn := List.find?_eq_none.1 hf (p, i) (List.mem_zipIdx_iff_getElem?.2 hi)
    simp at hn

end Declaration

namespace Comment

/-- The names of the parameter elements that have one, in the order of the comment. -/
def paramNames (c : Comment) : List String := c.filterMap Node.paramName?

@[simp] theorem paramNames_append (c e : Comment) :
    paramNames (c ++ e) = paramNames c ++ paramNames e :=
  List.filterMap_append

@[simp] theorem paramNames_newLine_cons (c : Comment) : paramNames (.newLine :: c) = c.paramNames :=
  rfl

@[simp] theorem paramNames_ofParameter_cons (p : Parameter) (c : Comment) :
    paramNames (.ofParameter p :: c) = p.name :: c.paramNames :=
  rfl

theorem documents_iff {c : Comment} : c.documents name = true ↔ name ∈ c.paramNames := by
  simp [documents, paramNames]

@[simp] theorem documents_append (c e : Comment) (name : String) :
    documents (c ++ e) name = (documents c name || documents e name) :=
  List.any_append

theorem documents_eq_false_of_not_isNamed {c : Comment} (h : ∀ n ∈ c, n.isNamed = false)
    (name : String) : c.documents name = false := by
  rw [documents, List.any_eq_false]
  intro n hn hd
  have hx := h n hn
  rw [Node.isNamed, eq_of_beq hd] at hx
  cases hx

theorem documents_insertAt (c e : Comment) (i : Nat) (name : String) :
    (c.insertAt i e).documents name = (c.documents name || e.documents name) := by
  have hc : c.documents name = (documents (c.take i) name || documents (c.drop i) name) := by
    rw [← documents_append, List.take_append_drop]
  rw [insertAt, documents_append, documents_append, hc, Bool.or_right_comm]

theorem documents_splice (c : Comment) (a : Anchor) (p : Parameter) (name : String) :
    (c.splice a (.ofParameter p)).documents name = (c.documents name || p.name == name) := by
  cases a with
  | before i =>
    rw [splice, documents_insertAt]
    simp [documents, Node.ofParameter, Node.paramName?]
  | after i =>
    rw [splice, documents_insertAt]
    simp [documents, Node.ofParameter, Node.paramName?]

/-- `A` and `B` with a line for the element between them. -/
inductive Between (n : Node) (A B : Comment) : Comment → Prop
  | before : Between n A B (A ++ n :: .newLine :: B)
  | after : Between n A B (A ++ .newLine :: n :: B)

theorem between_splice_before (A B : Comment) (x n : Node) :
    Between n A (x :: B) (splice (A ++ x :: B) (.before A.length) n) := by
  rw [splice_before]
  exact .before

theorem between_splice_after (A B : Comment) (x n : Node) :
    Between n (A ++ [x]) B (splice (A ++ x :: B) (.after A.length) n) := by
  rw [splice_after, List.append_cons A x (.newLine :: n :: B)]
  exact .after

theorem Between.sublist (h : Between n A B e) : (A ++ B).Sublist e := by
  cases h with
  | before => exact .append (.refl A) (.cons _ (.cons _ (.refl B)))
  | after => exact .append (.refl A) (.cons _ (.cons _ (.refl B)))

theorem Between.perm (h : Between n A B e) : e.Perm (A ++ B ++ [.newLine, n]) := by
  rw [List.perm_iff_count]
  intro m
  cases h with
  | before =>
    simp only [List.count_append, List.count_cons, List.count_nil]
    omega
  | after =>
    simp only [List.count_append, List.count_cons, List.count_nil]
    omega

theorem Fallback.exists_isContent (h : Fallback c i) :
    ∃ A x B, c = A ++ x :: B ∧ i = A.length ∧ x.isContent = true := by
  cases h with
  | typeParam hx hB => exact ⟨_, _, _, rfl, rfl, Node.isContent_iff.2 (by simp [hx])⟩
  | summary ht hx hA => exact ⟨_, _, _, rfl, rfl, Node.isContent_iff.2 (by simp [hx])⟩
  | content hk hx hA => exact ⟨_, _, _, rfl, rfl, hx⟩

/-- What stands before a new element is not declared later; what stands behind it starts with an
element that is, or names no parameter. -/
theorem Placed.exists_cut (h : Placed declared target c a) (n : Node) :
    ∃ A B, c = A ++ B ∧ Between n A B (c.splice a n) ∧
      (∀ m ∈ A, m.isLater declared target = false) ∧
      ((∀ m ∈ B, m.isNamed = false) ∨ ∃ x C, B = x :: C ∧ x.isLater declared target = true) := by
  cases h with
  | @before A x B hA hx =>
    exact ⟨A, x :: B, rfl, between_splice_before A B x n, hA, .inr ⟨x, B, rfl, hx⟩⟩
  | @after A x B hl hx hB =>
    rw [List.append_cons, List.forall_mem_append] at hl
    exact ⟨A ++ [x], B, List.append_cons A x B, between_splice_after A B x n, hl.1, .inl hB⟩
  | first hn hi =>
    obtain ⟨A, x, B, rfl, rfl, -⟩ := (fallback?_eq_some_iff.1 hi).exists_isContent
    rw [List.append_cons, List.forall_mem_append] at hn
    refine ⟨A ++ [x], B, List.append_cons A x B, between_splice_after A B x n, ?_, .inl hn.2⟩
    exact fun m hm => Node.not_isLater_of_not_isNamed (hn.1 m hm)

/-- A comment with a new element on a line of its own, before or after one of its elements. -/
inductive Inserted (n : Node) : Comment → Comment → Prop
  | before : x.isContent = true → Inserted n (A ++ x :: B) (A ++ n :: .newLine :: x :: B)
  | after : x.isContent = true → Inserted n (A ++ x :: B) (A ++ x :: .newLine :: n :: B)

theorem Placed.inserted (h : Placed declared target c a) (n : Node) :
    Inserted n c (c.splice a n) := by
  cases h with
  | before hA hx =>
    rw [splice_before]
    exact .before (Node.isContent_of_isNamed (Node.isNamed_of_isLater hx))
  | after hl hx hB =>
    rw [splice_after]
    exact .after (Node.isContent_of_isNamed hx)
  | first hn hi =>
    obtain ⟨A, x, B, rfl, rfl, hx⟩ := (fallback?_eq_some_iff.1 hi).exists_isContent
    rw [splice_after]
    exact .after hx

section

variable {d : Declaration} {c e : Comment} {name : String}

theorem insertParameter_eq_ok (hf : d.findParameter? name = some (p, i))
    (hd : c.documents name = false) (ha : c.anchor? d.parameterNames i = some a) :
    c.insertParameter d name = .ok (c.splice a (.ofParameter p)) := by
  rw [Declaration.parameterNames] at ha
  simp [insertParameter, hf, hd, ha]

theorem insertParameter_eq_error (hf : d.findParameter? name = some (p, i))
    (hd : c.documents name = false) (hc : ∀ n ∈ c, n.isContent = false) :
    c.insertParameter d name = .error .nothingToInsertAfter := by
  have ha : c.anchor? d.parameterNames i = none := anchor?_eq_none_iff.2 hc
  rw [Declaration.parameterNames] at ha
  simp [insertParameter, hf, hd, ha]

theorem insertParameter_of_not_declared (hn : name ∉ d.parameterNames) :
    c.insertParameter d name = .error (.unknownParameter name) := by
  cases hf : d.findParameter? name with
  | none => rw [insertParameter, hf]
  | some r =>
    obtain ⟨hp, rfl, -⟩ := Declaration.findParameter?_eq_some (p := r.1) (i := r.2) hf
    exact (hn (List.mem_map_of_mem (List.mem_of_getElem? hp))).elim

theorem insertParameter_of_documents (hn : name ∈ d.parameterNames)
    (hd : c.documents name = true) :
    c.insertParameter d name = .error (.alreadyDocumented name) := by
  obtain ⟨p, i, hf⟩ := Declaration.exists_findParameter? hn
  rw [insertParameter, hf]
  exact if_pos hd

/-- All that documenting one parameter can do when it succeeds. -/
theorem insertParameter_cases (h : c.insertParameter d name = .ok e) :
    ∃ p i a, d.findParameter? name = some (p, i) ∧ c.documents name = false ∧
      Placed d.parameterNames i c a ∧ e = c.splice a (.ofParameter p) := by
  unfold insertParameter at h
  split at h
  case h_1 => cases h
  case h_2 p i hf =>
    split at h
    case isTrue => cases h
    case isFalse hd =>
      split at h
      case h_1 => cases h
      case h_2 a ha =>
        cases h
        exact ⟨p, i, a, hf, by simpa using hd, anchor?_eq_some_iff.1 ha, rfl⟩

theorem documents_insertParameter (h : c.insertParameter d name = .ok e) (other : String) :
    e.documents other = (c.documents other || name == other) := by
  obtain ⟨p, i, a, hf, -, -, rfl⟩ := insertParameter_cases h
  rw [documents_splice, (Declaration.findParameter?_eq_some hf).2.1]

theorem exists_insertParameter (hn : name ∈ d.parameterNames) (hd : c.documents name = false)
    (hc : ∃ n ∈ c, n.isContent = true) : ∃ e, c.insertParameter d name = .ok e := by
  obtain ⟨p, i, hf⟩ := Declaration.exists_findParameter? hn
  obtain ⟨a, ha⟩ := exists_placed d.parameterNames i hc
  exact ⟨_, insertParameter_eq_ok hf hd ha.anchor?⟩

theorem insertMissing_induction {P : Comment → Prop}
    (hP : ∀ c e name, P c → c.insertParameter d name = .ok e → P e) (hc : P c)
    (h : c.insertMissing d = .ok e) : P e := by
  unfold insertMissing at h
  generalize d.parameters = ps at h
  induction ps generalizing c with
  | nil =>
    cases h
    exact hc
  | cons p ps ih =>
    rw [List.foldlM_cons] at h
    split at h
    case isTrue => exact ih hc h
    case isFalse =>
      cases hs : c.insertParameter d p.name with
      | error => simp [hs, bind, Except.bind] at h
      | ok f =>
        rw [hs] at h
        exact ih (hP c f p.name hc hs) h

end

end Comment

end TripleSlash
