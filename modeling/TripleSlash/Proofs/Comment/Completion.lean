import Mathlib.Data.List.Nodup
import TripleSlash.Proofs.Comment.Insertion
import TripleSlash.Proofs.Comment.Lines

namespace TripleSlash

namespace Declaration

variable {d : Declaration}

theorem idxOf?_parameterNames (hn : d.parameterNames.Nodup) (hp : d.parameters[i]? = some p) :
    d.parameterNames.idxOf? p.name = some i := by
  obtain ⟨hi, rfl⟩ := List.getElem?_eq_some_iff.1 hp
  have hi' : i < d.parameterNames.length := by simpa [parameterNames] using hi
  refine List.idxOf?_eq_some_iff.2 ⟨hi', by simp [parameterNames], fun j hj he => ?_⟩
  have hj' : j < d.parameterNames.length := Nat.lt_trans hj hi'
  have he' : d.parameterNames[j] = d.parameterNames[i] := by simpa [parameterNames] using he
  exact Nat.ne_of_lt hj (hn.getElem_inj_iff.1 he')

theorem findParameter?_of_nodup (hn : d.parameterNames.Nodup) (hp : d.parameters[i]? = some p) :
    d.findParameter? p.name = some (p, i) := by
  have hm : p.name ∈ d.parameterNames := List.mem_map_of_mem (List.mem_of_getElem? hp)
  obtain ⟨q, j, hf⟩ := exists_findParameter? hm
  obtain ⟨hq, -, hj⟩ := findParameter?_eq_some hf
  rw [idxOf?_parameterNames hn hp] at hj
  cases hj
  rw [hp] at hq
  cases hq
  exact hf

theorem name_notMem (hn : d.parameterNames.Nodup) (hd : d.parameters = L ++ p :: R) :
    p.name ∉ (L ++ R).map (·.name) := by
  rw [parameterNames, hd, List.map_append, List.map_cons, List.nodup_middle, List.nodup_cons,
    ← List.map_append] at hn
  exact hn.1

end Declaration

namespace Comment

theorem documents_ofElements (A : List Node) (name : String) :
    (ofElements A).documents name = documents A name := by
  have hm {n : Node} (hn : (n.paramName? == some name) = true) :
      n ∈ ofElements A ↔ n ∈ A := by
    apply mem_ofElements_of_ne_newLine
    rintro rfl
    cases hn
  rw [Bool.eq_iff_iff, documents, documents, List.any_eq_true, List.any_eq_true]
  constructor
  · rintro ⟨n, hn, he⟩
    exact ⟨n, (hm he).1 hn, he⟩
  · rintro ⟨n, hn, he⟩
    exact ⟨n, (hm he).2 hn, he⟩

theorem documents_parameters (ps : List Parameter) (name : String) :
    documents (ps.map Node.ofParameter) name = ps.any (·.name == name) := by
  simp [documents, Node.ofParameter, Node.paramName?, Function.comp_def]

section

variable {declared : List String} {target : Nat} {A B : List Node} {n x : Node}

theorem Placed.before_element (hA : ∀ n ∈ A, n.isLater declared target = false)
    (hx : x.isLater declared target = true) :
    Placed declared target (ofElements (A ++ x :: B)) (.before (leading A).length) := by
  rw [ofElements_append_cons]
  exact .before (forall_mem_leading (f := fun n => n.isLater declared target = false) rfl hA) hx

theorem Placed.after_element (hl : ∀ n ∈ A ++ x :: B, n.isLater declared target = false)
    (hx : x.isNamed = true) (hB : ∀ n ∈ B, n.isNamed = false) :
    Placed declared target (ofElements (A ++ x :: B)) (.after (leading A).length) := by
  have hc := forall_mem_ofElements (f := fun n => n.isLater declared target = false) rfl hl
  rw [ofElements_append_cons] at hc ⊢
  exact .after hc hx (forall_mem_trailing (f := fun n => n.isNamed = false) rfl hB)

theorem splice_before_element :
    (ofElements (A ++ x :: B)).splice (.before (leading A).length) n =
      ofElements (A ++ n :: x :: B) := by
  rw [ofElements_append_cons, splice_before, ofElements_append_cons]
  rfl

theorem splice_after_element :
    (ofElements (A ++ x :: B)).splice (.after (leading A).length) n =
      ofElements (A ++ x :: n :: B) := by
  rw [ofElements_append_cons, splice_after, ofElements_append_cons]
  rfl

end

/-- What a generated comment says beside the parameters: a summary and type parameters before
them, and elements of other kinds after them. -/
structure Layout where
  summary : Node
  typeParams : List Node
  rest : List Node
  summary_kind : summary.kind = .summary
  typeParams_kind : ∀ n ∈ typeParams, n.kind = .typeParam
  rest_kind : ∀ n ∈ rest, n.kind = .returns ∨ n.kind = .exception

namespace Layout

/-- The elements before those for the parameters. -/
def front (l : Layout) : List Node := l.summary :: l.typeParams

def elements (l : Layout) (ps : List Parameter) : List Node :=
  l.front ++ ps.map Node.ofParameter ++ l.rest

def comment (l : Layout) (ps : List Parameter) : Comment := ofElements (l.elements ps)

variable {l : Layout} {declared : List String} {target : Nat} {L R : List Parameter}

theorem not_isNamed_front (l : Layout) : ∀ n ∈ l.front, n.isNamed = false := by
  intro n hn
  rcases List.mem_cons.1 hn with rfl | hn
  · exact Node.not_isNamed_of_kind (by simp [l.summary_kind])
  · exact Node.not_isNamed_of_kind (by simp [l.typeParams_kind n hn])

theorem not_isNamed_rest (l : Layout) : ∀ n ∈ l.rest, n.isNamed = false := by
  intro n hn
  apply Node.not_isNamed_of_kind
  rcases l.rest_kind n hn with hk | hk <;> simp [hk]

theorem documents_comment (l : Layout) (ps : List Parameter) (name : String) :
    (l.comment ps).documents name = ps.any (·.name == name) := by
  have hf := documents_eq_false_of_not_isNamed l.not_isNamed_front name
  have hr := documents_eq_false_of_not_isNamed l.not_isNamed_rest name
  rw [comment, documents_ofElements, elements, documents_append, documents_append,
    documents_parameters, hf, hr, Bool.false_or, Bool.or_false]

theorem fallback?_comment_nil (he : l.front = A ++ [x]) :
    fallback? (l.comment []) = some (leading A).length := by
  have hr : ∀ n ∈ trailing l.rest, n.kind ≠ .typeParam := by
    apply forall_mem_trailing (f := fun n => n.kind ≠ .typeParam) (by simp [Node.kind])
    intro n hn
    rcases l.rest_kind n hn with hk | hk <;> simp [hk]
  have hc : l.comment [] = leading A ++ x :: trailing l.rest := by
    rw [← ofElements_append_cons, comment, elements, he]
    simp
  rw [hc]
  cases A with
  | nil =>
    obtain ⟨rfl, -⟩ := List.cons.inj he
    apply fallback?_of_summary ?_ l.summary_kind (by simp [leading])
    intro n hn
    rcases List.mem_cons.1 hn with rfl | hn
    · simp [l.summary_kind]
    · exact hr n hn
  | cons y A =>
    obtain ⟨-, ht⟩ := List.cons.inj he
    exact fallback?_of_typeParam (l.typeParams_kind x (by simp [ht])) hr

theorem not_isLater_front (l : Layout) (declared : List String) (target : Nat) :
    ∀ n ∈ l.front, n.isLater declared target = false := fun n hn =>
  Node.not_isLater_of_not_isNamed (l.not_isNamed_front n hn)

theorem not_isLater_rest (l : Layout) (declared : List String) (target : Nat) :
    ∀ n ∈ l.rest, n.isLater declared target = false := fun n hn =>
  Node.not_isLater_of_not_isNamed (l.not_isNamed_rest n hn)

theorem exists_anchor?_before (hL : ∀ p ∈ L, (Node.ofParameter p).isLater declared target = false)
    (hr : (Node.ofParameter r).isLater declared target = true) :
    ∃ a, (l.comment (L ++ r :: R)).anchor? declared target = some a ∧
      ∀ p, (l.comment (L ++ r :: R)).splice a (.ofParameter p) = l.comment (L ++ p :: r :: R) := by
  have he : l.elements (L ++ r :: R) = (l.front ++ L.map Node.ofParameter) ++
      .ofParameter r :: (R.map Node.ofParameter ++ l.rest) := by simp [elements]
  have hA : ∀ n ∈ l.front ++ L.map Node.ofParameter, n.isLater declared target = false := by
    rw [List.forall_mem_append, List.forall_mem_map]
    exact ⟨l.not_isLater_front declared target, hL⟩
  rw [comment, he]
  refine ⟨_, (Placed.before_element hA hr).anchor?, fun p => ?_⟩
  rw [splice_before_element]
  simp [comment, elements]

theorem exists_anchor?_after
    (hL : ∀ p ∈ L ++ [x], (Node.ofParameter p).isLater declared target = false) :
    ∃ a, (l.comment (L ++ [x])).anchor? declared target = some a ∧
      ∀ p, (l.comment (L ++ [x])).splice a (.ofParameter p) = l.comment (L ++ [x] ++ [p]) := by
  have he : l.elements (L ++ [x]) = (l.front ++ L.map Node.ofParameter) ++
      .ofParameter x :: l.rest := by simp [elements]
  have hl : ∀ n ∈ l.elements (L ++ [x]), n.isLater declared target = false := by
    rw [elements, List.forall_mem_append, List.forall_mem_append, List.forall_mem_map]
    exact ⟨⟨l.not_isLater_front declared target, hL⟩, l.not_isLater_rest declared target⟩
  rw [he] at hl
  rw [comment, he]
  refine ⟨_, (Placed.after_element hl rfl l.not_isNamed_rest).anchor?, fun p => ?_⟩
  rw [splice_after_element]
  simp [comment, elements]

theorem exists_anchor?_first (l : Layout) (declared : List String) (target : Nat) :
    ∃ a, (l.comment []).anchor? declared target = some a ∧
      ∀ p, (l.comment []).splice a (.ofParameter p) = l.comment [p] := by
  obtain ⟨A, x, hx⟩ := (List.eq_nil_or_concat' l.front).resolve_left (by simp [front])
  have he : l.elements [] = A ++ x :: l.rest := by simp [elements, hx]
  have hn : ∀ n ∈ l.comment [], n.isNamed = false := by
    apply forall_mem_ofElements (f := fun n => n.isNamed = false) rfl
    rw [elements, List.forall_mem_append, List.forall_mem_append]
    exact ⟨⟨l.not_isNamed_front, by simp⟩, l.not_isNamed_rest⟩
  refine ⟨_, (Placed.first hn (fallback?_comment_nil hx)).anchor?, fun p => ?_⟩
  rw [comment, he, splice_after_element]
  simp [comment, elements, hx]

/-- A parameter element goes between those that are declared before it and those declared after. -/
theorem exists_anchor? (hL : ∀ p ∈ L, (Node.ofParameter p).isLater declared target = false)
    (hR : ∀ p ∈ R, (Node.ofParameter p).isLater declared target = true) :
    ∃ a, (l.comment (L ++ R)).anchor? declared target = some a ∧
      ∀ p, (l.comment (L ++ R)).splice a (.ofParameter p) = l.comment (L ++ p :: R) := by
  cases R with
  | cons r R => exact exists_anchor?_before hL (hR r List.mem_cons_self)
  | nil =>
    rw [List.append_nil]
    rcases List.eq_nil_or_concat' L with rfl | ⟨L, x, rfl⟩
    · exact l.exists_anchor?_first declared target
    · exact exists_anchor?_after hL

variable {d : Declaration} {done missing : List Parameter} {p : Parameter}

theorem insertParameter_comment (hn : d.parameterNames.Nodup)
    (hd : d.parameters = done ++ p :: missing) (hs : ps.Sublist missing) :
    (l.comment (done ++ ps)).insertParameter d p.name = .ok (l.comment (done ++ p :: ps)) := by
  have hp : d.parameters[done.length]? = some p := by simp [hd]
  have hc : (l.comment (done ++ ps)).documents p.name = false := by
    rw [documents_comment, List.any_eq_false]
    intro q hq he
    apply Declaration.name_notMem hn hd
    rw [← eq_of_beq he]
    exact List.mem_map_of_mem ((hs.append_left done).subset hq)
  have hL : ∀ q ∈ done, (Node.ofParameter q).isLater d.parameterNames done.length = false := by
    intro q hq
    obtain ⟨k, hk⟩ := List.getElem?_of_mem hq
    have hkl : k < done.length := (List.getElem?_eq_some_iff.1 hk).1
    have hp : d.parameters[k]? = some q := by rw [hd, List.getElem?_append_left hkl, hk]
    have hi := Declaration.idxOf?_parameterNames hn hp
    simp [Node.isLater_ofParameter hi, Nat.le_of_lt hkl]
  have hR : ∀ q ∈ ps, (Node.ofParameter q).isLater d.parameterNames done.length = true := by
    intro q hq
    obtain ⟨k, hk⟩ := List.getElem?_of_mem (hs.subset hq)
    have hp : d.parameters[done.length + (k + 1)]? = some q := by
      rw [hd, List.getElem?_append_right (Nat.le_add_right _ _), Nat.add_sub_cancel_left,
        List.getElem?_cons_succ, hk]
    have hi := Declaration.idxOf?_parameterNames hn hp
    simp [Node.isLater_ofParameter hi]
  obtain ⟨a, ha, hsp⟩ := l.exists_anchor? hL hR
  rw [insertParameter_eq_ok (Declaration.findParameter?_of_nodup hn hp) hc ha, hsp]

/-- The parameters in `done` have been visited, so that they are documented in full, and of those in
`missing` some are documented. -/
theorem foldlM_comment (hn : d.parameterNames.Nodup) (hs : ps.Sublist missing)
    (hd : d.parameters = done ++ missing) :
    missing.foldlM
        (fun c p => if documents c p.name then .ok c else c.insertParameter d p.name)
        (l.comment (done ++ ps)) = .ok (l.comment d.parameters) := by
  induction hs generalizing done with
  | slnil =>
    rw [hd]
    rfl
  | @cons ps missing p hs ih =>
    have hc : (l.comment (done ++ ps)).documents p.name = false := by
      obtain ⟨_, _, _, _, hc, _⟩ :=
        insertParameter_cases (insertParameter_comment (l := l) hn hd hs)
      exact hc
    have hd' : d.parameters = (done ++ [p]) ++ missing := by simp [hd]
    rw [List.foldlM_cons, if_neg (by simp [hc]), insertParameter_comment hn hd hs]
    exact List.append_cons done p ps ▸ ih hd'
  | @cons_cons ps missing p hs ih =>
    have hc : (l.comment (done ++ p :: ps)).documents p.name = true := by
      simp [documents_comment]
    have hd' : d.parameters = (done ++ [p]) ++ missing := by simp [hd]
    rw [List.foldlM_cons, if_pos hc]
    exact List.append_cons done p ps ▸ ih hd'

end Layout

end Comment

namespace Declaration

theorem kind_typeParameterElements (d : Declaration) :
    ∀ n ∈ d.typeParameterElements, n.kind = .typeParam := by
  intro n hn
  obtain ⟨name, -, rfl⟩ := List.mem_map.1 hn
  rfl

theorem kind_returnElements (s : Settings) (oracle : Oracle) (d : Declaration) :
    ∀ n ∈ d.returnElements s oracle, n.kind = .returns := by
  intro n hn
  obtain ⟨content, -, rfl⟩ := List.mem_map.1 hn
  rfl

theorem kind_thrownElements (d : Declaration) : ∀ n ∈ d.thrownElements, n.kind = .exception := by
  intro n hn
  obtain ⟨t, -, rfl⟩ := List.mem_map.1 hn
  rfl

/-- The layout of the comment for a method or delegate. -/
def signatureLayout (s : Settings) (oracle : Oracle) (d : Declaration) (thrown : List Node)
    (ht : ∀ n ∈ thrown, n.kind = .exception) : Comment.Layout where
  summary := .ofSummary (Prose.methodSummary d.name s.inflectVerbs)
  typeParams := d.typeParameterElements
  rest := d.returnElements s oracle ++ thrown
  summary_kind := rfl
  typeParams_kind := d.kind_typeParameterElements
  rest_kind n hn := (List.mem_append.1 hn).imp (d.kind_returnElements s oracle n) (ht n)

/-- The layout of a comment without type parameters. -/
def plainLayout (content : List Inline) (returned : List (List Inline)) : Comment.Layout where
  summary := .summary content
  typeParams := []
  rest := returned.map Node.returns
  summary_kind := rfl
  typeParams_kind := by simp
  rest_kind n hn := by
    obtain ⟨c, -, rfl⟩ := List.mem_map.1 hn
    exact .inl rfl

theorem exists_constructorLayout {s : Settings} {d : Declaration}
    (h : constructorElements s { d with parameters := ps } destructor = .ok es) :
    ∃ l : Comment.Layout,
      ∀ qs, constructorElements s { d with parameters := qs } destructor = .ok (l.elements qs) := by
  simp only [constructorElements] at h ⊢
  split at h
  case h_1 => cases h
  case h_2 e he =>
    refine ⟨plainLayout (Prose.constructorSummary e destructor s.phrases) [], fun qs => ?_⟩
    refine congrArg Except.ok ?_
    exact congrArg _ (List.append_nil _).symm

/-- Apart from the elements for its parameters, the comment for a member does not depend on
them. -/
theorem exists_layout {s : Settings} {oracle : Oracle} {d : Declaration}
    (hk : d.kind ∈ [.method, .delegate, .constructor, .destructor, .indexer])
    (h : elements s oracle { d with parameters := ps } = .ok es) :
    ∃ l : Comment.Layout,
      ∀ qs, elements s oracle { d with parameters := qs } = .ok (l.elements qs) := by
  simp only [List.mem_cons, List.not_mem_nil, or_false] at hk
  rcases hk with hk | hk | hk | hk | hk
  · refine ⟨d.signatureLayout s oracle d.thrownElements d.kind_thrownElements, fun qs => ?_⟩
    simp only [elements, hk] at h ⊢
    split at h
    case isTrue => cases h
    case isFalse hi =>
      refine (if_neg hi).trans (congrArg Except.ok ?_)
      exact List.append_assoc (_ ++ _) _ _
  · refine ⟨d.signatureLayout s oracle [] (by simp), fun qs => ?_⟩
    simp only [elements, hk]
    refine congrArg Except.ok ?_
    exact congrArg _ (List.append_nil _).symm
  · simp only [elements, hk] at h ⊢
    exact exists_constructorLayout h
  · simp only [elements, hk] at h ⊢
    exact exists_constructorLayout h
  · refine ⟨plainLayout [.text (Prose.indexerSummary (d.accessors.visible d.access) s.phrases)]
      [[.text s.phrases.indexerReturns]], fun qs => ?_⟩
    simp only [elements, hk]
    rfl

end Declaration

namespace Comment

/-- Completing the comment for a part of the parameters gives the comment for all of them, whatever
can be told of return types. -/
theorem insertMissing_assemble {s : Settings} {oracle : Oracle} {d : Declaration}
    (hk : d.kind ∈ [.method, .delegate, .constructor, .destructor, .indexer])
    (hn : (d.parameters.map (·.name)).Nodup) (hs : ps.Sublist d.parameters)
    (hc : assemble s { d with parameters := ps } oracle = .ok c) :
    ∃ e, assemble s d oracle = .ok e ∧ c.insertMissing d = .ok e := by
  cases he : Declaration.elements s oracle { d with parameters := ps } with
  | error => simp [assemble, he, Except.map] at hc
  | ok es =>
    obtain ⟨l, hl⟩ := Declaration.exists_layout hk he
    have hp : assemble s { d with parameters := ps } oracle = .ok (l.comment ps) :=
      congrArg (Except.map ofElements) (hl ps)
    have hd : assemble s d oracle = .ok (l.comment d.parameters) :=
      congrArg (Except.map ofElements) (hl d.parameters)
    rw [hp] at hc
    cases hc
    exact ⟨_, hd, Layout.foldlM_comment hn hs (List.nil_append d.parameters).symm⟩

/-- A method with a type parameter and a result, of which the middle parameter is documented. -/
theorem insertMissing_assemble_copy :
    let d : Declaration :=
      { kind := .method, name := "Copy", typeParameters := ["TItem"]
        parameters := [⟨"source", .named "Path"⟩, ⟨"target", .named "Path"⟩,
          ⟨"overwrite", .keyword "bool"⟩]
        returnType := some (.keyword "int") }
    let c : Comment := [.summary [.text "Copies."], .newLine,
      .typeParam (some "TItem") [.text "The type of the item."], .newLine,
      .param (some "target") [.text "The target."], .newLine, .returns [.text "An int."]]
    ∃ e, assemble {} d = .ok e ∧ c.insertMissing d = .ok e := by
  intro d c
  have hs : [⟨"target", .named "Path"⟩].Sublist d.parameters :=
    .cons _ (.cons_cons _ (List.nil_sublist _))
  exact insertMissing_assemble (by decide) (by decide) hs (by decide)

end Comment

end TripleSlash
