import TripleSlash.Proofs.Comment.Elements
import TripleSlash.Proofs.Comment.Lines
import TripleSlash.Proofs.Prose.Sentence

namespace TripleSlash

open Prose (Says)

namespace Declaration

/-- How the summary starts, where it is made from the name. -/
def summaryLead? (s : Settings) (d : Declaration) : Option String :=
  match d.kind with
  | .method | .delegate | .enumMember => some ""
  | .property => some (Prose.propertyLead (d.accessors.visible d.access)
      (d.valueType.any TypeRef.isBoolean))
  | .event => some s.phrases.eventLead
  | .classType | .interfaceType | .structType | .enumType | .field => some "The "
  | .constructor | .destructor | .indexer | .operator | .conversion | .namespaceBlock => none

/-- Whether the node says something of the name that its sentence is made from. -/
def Names (s : Settings) (d : Declaration) : Node → Prop
  | .summary content => ∀ lead, d.summaryLead? s = some lead →
      ∃ text, content = [.text text] ∧ Says lead d.name text
  | .typeParam name content => ∃ t ∈ d.typeParameters, name = some t ∧
      ∃ text, content = [.text text] ∧ Says (Prose.typeParameterLead t) t text
  | .param name content => ∃ p ∈ d.parameters, name = some p.name ∧
      ∃ text, content = [.text text] ∧ Says (Prose.parameterLead p.type.isBoolean) p.name text
  | _ => True

/-- The summaries that are made from the name and may say nothing of it: that of an interface whose
name is a single character, and `Is.` for a method called `Be`. -/
inductive Exempt (s : Settings) (d : Declaration) : Node → Prop
  | initial : d.kind = .interfaceType → d.name.length = 1 → Exempt s d (.summary content)
  | be : d.kind ∈ [.method, .delegate] → s.inflectVerbs = true →
      (d.name, text) ∈ [("be", "is."), ("Be", "Is.")] → Exempt s d (.ofSummary text)

section

variable {s : Settings} {oracle : Oracle} {d : Declaration} {n : Node} {es : List Node}

theorem names_ofSummary (h : Says lead d.name text) (hl : d.summaryLead? s = some lead) :
    d.Names s (.ofSummary text) := by
  intro other ho
  rw [← Option.some.inj (hl.symm.trans ho)]
  exact ⟨text, rfl, h⟩

theorem names_summary (hl : d.summaryLead? s = none) (content : List Inline) :
    d.Names s (.summary content) := by
  intro lead h
  rw [hl] at h
  cases h

theorem names_of_mem_typeParameterElements (ht : ∀ t ∈ d.typeParameters, t ≠ "")
    (hn : n ∈ d.typeParameterElements) : d.Names s n := by
  obtain ⟨t, hm, rfl⟩ := List.mem_map.1 hn
  exact ⟨t, hm, rfl, _, rfl, Prose.says_typeParameterText (ht t hm)⟩

theorem names_of_mem_parameterElements (hp : ∀ p ∈ d.parameters, p.name ≠ "")
    (hn : n ∈ d.parameterElements) : d.Names s n := by
  obtain ⟨p, hm, rfl⟩ := List.mem_map.1 hn
  exact ⟨p, hm, rfl, _, rfl, Prose.says_parameterText (hp p hm) _⟩

theorem names_of_mem_returnElements (hn : n ∈ d.returnElements s oracle) : d.Names s n := by
  obtain ⟨content, -, rfl⟩ := List.mem_map.1 hn
  trivial

theorem names_of_mem_thrownElements (hn : n ∈ d.thrownElements) : d.Names s n := by
  obtain ⟨t, -, rfl⟩ := List.mem_map.1 hn
  trivial

theorem names_or_exempt_ofSummary_methodSummary (hn : d.name ≠ "")
    (hk : d.kind ∈ [.method, .delegate]) (hl : d.summaryLead? s = some "") :
    d.Names s (.ofSummary (Prose.methodSummary d.name s.inflectVerbs)) ∨
      d.Exempt s (.ofSummary (Prose.methodSummary d.name s.inflectVerbs)) := by
  by_cases hbe : s.inflectVerbs = true ∧ d.name ∈ ["be", "Be"]
  case pos =>
    obtain ⟨hi, hbe⟩ := hbe
    refine .inr (.be hk hi ?_)
    rcases List.mem_pair.1 hbe with hbe | hbe <;> rw [hbe, hi] <;> decide
  case neg => exact .inl (names_ofSummary (Prose.says_methodSummary hn (not_and.1 hbe)) hl)

theorem names_or_exempt_of_mem_signatureElements (hn : d.name ≠ "")
    (ht : ∀ t ∈ d.typeParameters, t ≠ "") (hp : ∀ p ∈ d.parameters, p.name ≠ "")
    (hk : d.kind ∈ [.method, .delegate]) (hl : d.summaryLead? s = some "")
    (hm : n ∈ d.signatureElements s oracle) : d.Names s n ∨ d.Exempt s n := by
  simp only [signatureElements, List.mem_append, List.mem_cons] at hm
  rcases hm with ((rfl | hm) | hm) | hm
  · exact names_or_exempt_ofSummary_methodSummary hn hk hl
  · exact .inl (names_of_mem_typeParameterElements ht hm)
  · exact .inl (names_of_mem_parameterElements hp hm)
  · exact .inl (names_of_mem_returnElements hm)

theorem names_or_exempt_of_mem_elements (h : d.elements s oracle = .ok es) (hn : d.name ≠ "")
    (ht : ∀ t ∈ d.typeParameters, t ≠ "") (hp : ∀ p ∈ d.parameters, p.name ≠ "")
    (hm : n ∈ es) : d.Names s n ∨ d.Exempt s n := by
  cases elementsFor_of_elements h with
  | method hk =>
    have hl : d.summaryLead? s = some "" := by rw [summaryLead?, hk]
    rcases List.mem_append.1 hm with hm | hm
    · exact names_or_exempt_of_mem_signatureElements hn ht hp (by simp [hk]) hl hm
    · exact .inl (names_of_mem_thrownElements hm)
  | delegate hk =>
    have hl : d.summaryLead? s = some "" := by rw [summaryLead?, hk]
    exact names_or_exempt_of_mem_signatureElements hn ht hp (by simp [hk]) hl hm
  | constructor hk | destructor hk =>
    rcases List.mem_cons.1 hm with rfl | hm
    · exact .inl (names_summary (by rw [summaryLead?, hk]) _)
    · exact .inl (names_of_mem_parameterElements hp hm)
  | property hk =>
    rw [List.mem_singleton.1 hm]
    exact .inl (names_ofSummary (Prose.says_propertySummary hn _ _) (by rw [summaryLead?, hk]))
  | indexer hk =>
    simp only [List.mem_append, List.mem_cons, List.not_mem_nil, or_false] at hm
    rcases hm with (rfl | hm) | rfl
    · exact .inl (names_summary (by rw [summaryLead?, hk]) _)
    · exact .inl (names_of_mem_parameterElements hp hm)
    · exact .inl trivial
  | event hk =>
    rw [List.mem_singleton.1 hm]
    exact .inl (names_ofSummary (Prose.says_eventSummary hn _) (by rw [summaryLead?, hk]))
  | classType hk | structType hk =>
    rcases List.mem_cons.1 hm with rfl | hm
    · exact .inl (names_ofSummary (Prose.says_nounPhrase_false hn) (by rw [summaryLead?, hk]))
    · exact .inl (names_of_mem_typeParameterElements ht hm)
  | interfaceType hk =>
    rcases List.mem_cons.1 hm with rfl | hm
    · by_cases hd : d.name.length = 1
      case pos => exact .inr (.initial hk hd)
      case neg =>
        have hs := Prose.says_nounPhrase hn fun _ : true = true => hd
        exact .inl (names_ofSummary hs (by rw [summaryLead?, hk]))
    · exact .inl (names_of_mem_typeParameterElements ht hm)
  | enumType hk | field hk =>
    rw [List.mem_singleton.1 hm]
    exact .inl (names_ofSummary (Prose.says_nounPhrase_false hn) (by rw [summaryLead?, hk]))
  | enumMember hk =>
    rw [List.mem_singleton.1 hm]
    exact .inl (names_ofSummary (Prose.says_enumMemberSummary hn) (by rw [summaryLead?, hk]))

end

end Declaration

namespace Comment

/-- Each sentence of a new comment that is made from a name has a letter of the name behind its
lead. -/
theorem names_of_assemble {oracle : Oracle} {c : Comment} (hn : d.name ≠ "")
    (ht : ∀ t ∈ d.typeParameters, t ≠ "") (hp : ∀ p ∈ d.parameters, p.name ≠ "")
    (h : assemble s d oracle = .ok c) :
    ∀ n ∈ c, d.Names s n ∨ d.Exempt s n := by
  rw [assemble] at h
  cases he : d.elements s oracle with
  | error p =>
    rw [he] at h
    cases h
  | ok es =>
    rw [he] at h
    cases h
    exact forall_mem_ofElements (.inl trivial)
      fun n hm => Declaration.names_or_exempt_of_mem_elements he hn ht hp hm

theorem names_of_assemble_find :
    let d : Declaration :=
      { kind := .method, name := "Find", typeParameters := ["T", "TKey"]
        parameters := [⟨"isExact", .keyword "bool"⟩, ⟨"x", .named "T"⟩] }
    ∃ c, assemble {} d = .ok c ∧ ∀ n ∈ c, d.Names {} n ∨ d.Exempt {} n :=
  ⟨_, rfl, names_of_assemble (by decide) (by decide) (by decide) rfl⟩

/-- The verb `be` shares no letter with its third person, and the letter of an interface is dropped
even if it is the whole name. -/
theorem not_names_assemble :
    let be : Declaration := { kind := .method, name := "Be" }
    let letter : Declaration := { kind := .interfaceType, name := "I" }
    (assemble {} be = .ok [.ofSummary "Is."] ∧ ¬be.Names {} (.ofSummary "Is.")) ∧
      assemble {} letter = .ok [.ofSummary "The ."] ∧ ¬letter.Names {} (.ofSummary "The .") := by
  intro be letter
  refine ⟨⟨by decide, fun h => ?_⟩, by decide, fun h => ?_⟩
  · obtain ⟨text, he, hs⟩ := h "" rfl
    cases he
    have hs : Says "" "Be" ("" ++ "Is" ++ ".") := hs
    exact absurd (Prose.says_append_iff.1 hs) (by decide)
  · obtain ⟨text, he, hs⟩ := h "The " rfl
    cases he
    have hs : Says "The " "I" ("The " ++ "" ++ ".") := hs
    exact absurd (Prose.says_append_iff.1 hs) (by decide)

end Comment

end TripleSlash
