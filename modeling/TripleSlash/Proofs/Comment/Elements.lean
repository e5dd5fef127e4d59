import TripleSlash.Comment.Assembly

namespace TripleSlash.Declaration

/-- The elements of the comment for a declaration that gets one, by the kind of the declaration. -/
inductive ElementsFor (s : Settings) (oracle : Oracle) (d : Declaration) : List Node → Prop
  | method : d.kind = .method → d.inheritsDocumentation = false →
      ElementsFor s oracle d (d.signatureElements s oracle ++ d.thrownElements)
  | delegate : d.kind = .delegate → ElementsFor s oracle d (d.signatureElements s oracle)
  | constructor : d.kind = .constructor → d.enclosing = some e →
      ElementsFor s oracle d
        (.summary (Prose.constructorSummary e false s.phrases) :: d.parameterElements)
  | destructor : d.kind = .destructor → d.enclosing = some e →
      ElementsFor s oracle d
        (.summary (Prose.constructorSummary e true s.phrases) :: d.parameterElements)
  | property : d.kind = .property → d.inheritsDocumentation = false →
      ElementsFor s oracle d
        [.ofSummary (Prose.propertySummary d.name (d.accessors.visible d.access)
          (d.valueType.any TypeRef.isBoolean))]
  | indexer : d.kind = .indexer →
      ElementsFor s oracle d
        (.ofSummary (Prose.indexerSummary (d.accessors.visible d.access) s.phrases) ::
          d.parameterElements ++ [.returns [.text s.phrases.indexerReturns]])
  | event : d.kind = .event →
      ElementsFor s oracle d [.ofSummary (Prose.eventSummary d.name s.phrases)]
  | classType : d.kind = .classType →
      ElementsFor s oracle d (.ofSummary (Prose.nounPhrase d.name false) :: d.typeParameterElements)
  | structType : d.kind = .structType →
      ElementsFor s oracle d (.ofSummary (Prose.nounPhrase d.name false) :: d.typeParameterElements)
  | interfaceType : d.kind = .interfaceType →
      ElementsFor s oracle d (.ofSummary (Prose.nounPhrase d.name true) :: d.typeParameterElements)
  | enumType : d.kind = .enumType →
      ElementsFor s oracle d [.ofSummary (Prose.nounPhrase d.name false)]
  | field : d.kind = .field →
      ElementsFor s oracle d [.ofSummary (Prose.nounPhrase d.name false)]
  | enumMember : d.kind = .enumMember →
      ElementsFor s oracle d [.ofSummary (Prose.enumMemberSummary d.name)]

variable {s : Settings} {oracle : Oracle} {d : Declaration} {es : List Node}

theorem elementsFor_of_elements (h : d.elements s oracle = .ok es) : ElementsFor s oracle d es := by
  cases hk : d.kind with
  | method =>
    simp only [elements, hk] at h
    split at h
    case isTrue => cases h
    case isFalse hi =>
      cases h
      exact .method hk (eq_false_of_ne_true hi)
  | delegate =>
    simp only [elements, hk] at h
    cases h
    exact .delegate hk
  | constructor =>
    simp only [elements, constructorElements, hk] at h
    split at h
    case h_1 => cases h
    case h_2 he =>
      cases h
      exact .constructor hk he
  | destructor =>
    simp only [elements, constructorElements, hk] at h
    split at h
    case h_1 => cases h
    case h_2 he =>
      cases h
      exact .destructor hk he
  | property =>
    simp only [elements, hk] at h
    split at h
    case isTrue => cases h
    case isFalse hi =>
      cases h
      exact .property hk (eq_false_of_ne_true hi)
  | indexer =>
    simp only [elements, hk] at h
    cases h
    exact .indexer hk
  | event =>
    simp only [elements, hk] at h
    cases h
    exact .event hk
  | classType =>
    simp only [elements, hk] at h
    cases h
    exact .classType hk
  | structType =>
    simp only [elements, hk] at h
    cases h
    exact .structType hk
  | interfaceType =>
    simp only [elements, hk] at h
    cases h
    exact .interfaceType hk
  | enumType =>
    simp only [elements, hk] at h
    cases h
    exact .enumType hk
  | field =>
    simp only [elements, hk] at h
    cases h
    exact .field hk
  | enumMember =>
    simp only [elements, hk] at h
    cases h
    exact .enumMember hk
  | operator | conversion | namespaceBlock =>
    simp only [elements, hk] at h
    cases h

end TripleSlash.Declaration
