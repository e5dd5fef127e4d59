import TripleSlash.Proofs.Comment.Alternation

namespace TripleSlash

/-- Whether a value of the type can be returned: it is a type, and not `void`. -/
def TypeRef.isReturned : TypeRef → Bool
  | keyword t => t != "void"
  | raw _ => false
  | _ => true

theorem TypeRef.returned?_of_isReturned (h : TypeRef.isReturned t = true)
    (awaitables : List String) :
    t.returned? awaitables = some
      (if t.simpleName?.any awaitables.contains then .awaitable t.isGeneric else .value) := by
  cases t with
  | keyword t =>
    have ht : t ≠ "void" := by simpa [isReturned] using h
    simp [returned?, isVoid, simpleName?, ht]
  | raw => cases h
  | named | dotted | generic | array | nullable =>
    rw [apply_ite some]
    rfl

/-- Whether the oracle can tell that a type has values. -/
def Oracle.hasValues (oracle : Oracle) (t : TypeRef) : Bool :=
  match oracle t with
  | none | some .nothing => false
  | some (.awaitable _) | some .value => true

theorem Prose.isSome_returnContent? (t : TypeRef) (s : Settings) (oracle : Oracle) :
    (returnContent? t s oracle).isSome = oracle.hasValues t := by
  unfold returnContent? Oracle.hasValues
  rcases oracle t with _ | _ | _ | _ <;> rfl

/-- Whatever can be awaited, the name of a type tells whether it has values. -/
theorem Settings.hasValues_oracle (s : Settings) (t : TypeRef) :
    s.oracle.hasValues t = t.isReturned := by
  cases h : t.isReturned with
  | true =>
    rw [Oracle.hasValues, oracle, TypeRef.returned?_of_isReturned h]
    cases t.simpleName?.any s.awaitables.contains <;> rfl
  | false =>
    cases t with
    | keyword t =>
      have ht : t = "void" := by simpa [TypeRef.isReturned] using h
      rw [ht]
      rfl
    | raw => rfl
    | named | dotted | generic | array | nullable => cases h

namespace Node

/-- The node without its content. -/
def bare : Node → Node
  | newLine => newLine
  | summary _ => summary []
  | typeParam name _ => typeParam name []
  | param name _ => param name []
  | returns _ => returns []
  | exception cref _ => exception cref []
  | other raw => other raw

@[simp] theorem bare_ofSummary (text : String) : (ofSummary text).bare = summary [] := rfl

@[simp] theorem bare_returns (content : List Inline) : (returns content).bare = returns [] := rfl

end Node

namespace Declaration

/-- The declarations that get no comment, each with the reason. -/
inductive Refused (d : Declaration) : Problem → Prop
  | unsupported : d.kind ∈ [.operator, .conversion, .namespaceBlock] →
      Refused d (.unsupported d.kind)
  | inheritsDocumentation : d.kind ∈ [.method, .property] → d.inheritsDocumentation = true →
      Refused d (.inheritsDocumentation d.name)
  | noEnclosingType : d.kind ∈ [.constructor, .destructor] → d.enclosing = none →
      Refused d (.noEnclosingType d.name)

/-- Whether the comment says what is returned, for types of which it is told whether they have
values. -/
def documentsReturn (d : Declaration) (hasValues : TypeRef → Bool := TypeRef.isReturned) : Bool :=
  d.kind = .indexer || (d.kind ∈ [.method, .delegate] && d.returnType.any hasValues)

/-- The elements of the comment for a declaration, without their content. -/
def outline (d : Declaration) (hasValues : TypeRef → Bool := TypeRef.isReturned) : List Node :=
  .summary [] ::
    (if d.kind ∈ [.method, .delegate, .classType, .structType, .interfaceType] then
      d.typeParameters.map fun name => .typeParam (some name) [] else []) ++
    (if d.kind ∈ [.method, .delegate, .constructor, .destructor, .indexer] then
      d.parameters.map fun p => .param (some p.name) [] else []) ++
    (if d.documentsReturn hasValues then [.returns []] else []) ++
    (if d.kind = .method then d.thrown.map fun t => .exception t.cref [] else [])

section

variable {s : Settings} {oracle : Oracle} {d : Declaration} {p : Problem} {es : List Node}

theorem map_bare_typeParameterElements (d : Declaration) :
    d.typeParameterElements.map Node.bare =
      d.typeParameters.map fun name => .typeParam (some name) [] := by
  simp [typeParameterElements, Node.ofTypeParameter, Node.bare]

theorem map_bare_parameterElements (d : Declaration) :
    d.parameterElements.map Node.bare = d.parameters.map fun p => .param (some p.name) [] := by
  simp [parameterElements, Node.ofParameter, Node.bare]

theorem map_bare_returnElements (s : Settings) (oracle : Oracle) (d : Declaration) :
    (d.returnElements s oracle).map Node.bare =
      if d.returnType.any oracle.hasValues then [.returns []] else [] := by
  unfold returnElements
  cases d.returnType with
  | none => rfl
  | some t =>
    rw [Option.any_some, ← Prose.isSome_returnContent? t s, Option.bind_some]
    cases Prose.returnContent? t s oracle <;> rfl

theorem map_bare_thrownElements (d : Declaration) :
    d.thrownElements.map Node.bare = d.thrown.map fun t => .exception t.cref [] := by
  simp [thrownElements, Node.ofThrown, Node.bare]

theorem map_bare_signatureElements (s : Settings) (oracle : Oracle) (d : Declaration) :
    (d.signatureElements s oracle).map Node.bare =
      .summary [] :: (d.typeParameters.map fun name => .typeParam (some name) []) ++
        (d.parameters.map fun p => .param (some p.name) []) ++
        if d.returnType.any oracle.hasValues then [.returns []] else [] := by
  rw [signatureElements, List.map_append, List.map_append, List.map_cons, Node.bare_ofSummary,
    map_bare_typeParameterElements, map_bare_parameterElements, map_bare_returnElements]

theorem elements_eq_error_iff : d.elements s oracle = .error p ↔ d.Refused p := by
  constructor
  · intro h
    cases hk : d.kind with
    | method | property =>
      simp only [elements, hk] at h
      split at h
      case isTrue hi =>
        cases h
        exact .inheritsDocumentation (by simp [hk]) hi
      case isFalse => cases h
    | constructor | destructor =>
      simp only [elements, constructorElements, hk] at h
      split at h
      case h_1 he =>
        cases h
        exact .noEnclosingType (by simp [hk]) he
      case h_2 => cases h
    | operator | conversion | namespaceBlock =>
      simp only [elements, hk] at h
      cases h
      rw [← hk]
      exact .unsupported (by simp [hk])
    | _ =>
      simp only [elements, hk] at h
      cases h
  · intro h
    cases h with
    | unsupported hk =>
      simp only [List.mem_cons, List.not_mem_nil, or_false] at hk
      rcases hk with hk | hk | hk <;> simp only [elements, hk]
    | inheritsDocumentation hk hi =>
      simp only [List.mem_cons, List.not_mem_nil, or_false] at hk
      rcases hk with hk | hk <;> simp only [elements, hk, hi, if_true]
    | noEnclosingType hk he =>
      simp only [List.mem_cons, List.not_mem_nil, or_false] at hk
      rcases hk with hk | hk <;> simp only [elements, constructorElements, hk, he]

theorem map_bare_elements (h : d.elements s oracle = .ok es) :
    es.map Node.bare = d.outline oracle.hasValues := by
  cases elementsFor_of_elements h with
  | method hk =>
    rw [List.map_append, map_bare_signatureElements, map_bare_thrownElements]
    simp [outline, documentsReturn, hk]
  | delegate hk =>
    rw [map_bare_signatureElements]
    simp [outline, documentsReturn, hk]
  | constructor hk | destructor hk =>
    rw [List.map_cons, map_bare_parameterElements]
    simp [outline, documentsReturn, hk, Node.bare]
  | indexer hk =>
    rw [List.map_append, List.map_cons, map_bare_parameterElements]
    simp [outline, documentsReturn, hk]
  | classType hk | structType hk | interfaceType hk =>
    rw [List.map_cons, map_bare_typeParameterElements]
    simp [outline, documentsReturn, hk]
  | property hk | event hk | enumType hk | field hk | enumMember hk =>
    simp [outline, documentsReturn, hk]

end

end Declaration

namespace Comment

section

variable {es : List Node} {s : Settings} {oracle : Oracle} {d : Declaration} {p : Problem}

theorem filter_isContent_ofElements (h : ∀ n ∈ es, n.isContent = true) :
    (ofElements es).filter (·.isContent) = es := by
  induction es with
  | nil => rfl
  | cons x es ih =>
    rw [List.forall_mem_cons] at h
    rw [ofElements_cons, List.filter_cons_of_pos h.1]
    cases es with
    | nil => rfl
    | cons y es =>
      rw [trailing_cons, List.filter_cons_of_neg (by decide), ih h.2]

theorem assemble_eq_error_iff : assemble s d oracle = .error p ↔ d.Refused p := by
  rw [← Declaration.elements_eq_error_iff, assemble]
  cases d.elements s oracle <;> simp [Except.map]

theorem outline_of_elements (h : d.elements s oracle = .ok es) :
    (ofElements es).Alternating ∧
      ((ofElements es).filter (·.isContent)).map Node.bare = d.outline oracle.hasValues := by
  have hs := (Declaration.sectioned_elements h).isContent
  rw [filter_isContent_ofElements hs]
  exact ⟨alternating_ofElements hs, Declaration.map_bare_elements h⟩

/-- Whatever the oracle, the comment has exactly the elements of the outline. -/
theorem exists_outline (s : Settings) (oracle : Oracle) (d : Declaration) :
    (∃ p, d.Refused p) ∨ ∃ c, assemble s d oracle = .ok c ∧ c.Alternating ∧
      (c.filter (·.isContent)).map Node.bare = d.outline oracle.hasValues := by
  cases he : d.elements s oracle with
  | error p => exact .inl ⟨p, Declaration.elements_eq_error_iff.1 he⟩
  | ok es =>
    have ha : assemble s d oracle = .ok (ofElements es) := by rw [assemble, he]; rfl
    exact .inr ⟨ofElements es, ha, outline_of_elements he⟩

/-- A declaration is either refused or gets a comment with exactly the elements of its outline, each
on a line of its own. -/
theorem assemble_outline (s : Settings) (d : Declaration) :
    (∀ p, assemble s d = .error p ↔ d.Refused p) ∧
      ((∃ p, d.Refused p) ∨ ∃ c, assemble s d = .ok c ∧ c.Alternating ∧
        (c.filter (·.isContent)).map Node.bare = d.outline) := by
  refine ⟨fun p => assemble_eq_error_iff, ?_⟩
  have h := exists_outline s s.oracle d
  have hv : s.oracle.hasValues = TypeRef.isReturned := funext s.hasValues_oracle
  rw [hv] at h
  exact h

end

end Comment

end TripleSlash
