import TripleSlash.Proofs.TypeRef.RoundTrip

namespace TripleSlash.TypeRef

/-- A reference that some text is read as: one that fits the grammar, or a text that spells none. -/
inductive Legible : TypeRef → Prop
  | wellFormed : WellFormed t → Legible t
  | unspelled : (∀ t, WellFormed t → ¬SpelledBy t s) →
      Legible (.raw (String.ofList (Unicode.trim s.toList)))

theorem legible_parse (s : String) : Legible (parse s) := by
  rcases parse_cases s with ⟨hw, -⟩ | ⟨hr, hn⟩
  · exact .wellFormed hw
  · rw [hr]
    exact .unspelled hn

theorem Legible.parse_text (h : Legible t) : parse t.text = t := by
  cases h with
  | wellFormed hw => exact parse_of_spelledBy hw hw.spelledBy_text
  | unspelled hn =>
    rw [text, parse_of_not_spelledBy fun t hw hs => hn t hw hs.of_trim, String.toList_ofList,
      Unicode.trim_trim]

end TripleSlash.TypeRef
