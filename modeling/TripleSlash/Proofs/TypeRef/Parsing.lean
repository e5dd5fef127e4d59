import TripleSlash.Proofs.TypeRef.Completeness

namespace TripleSlash.TypeRef

open Token

theorem spelledBy_of_read {s : String} (h : (scan s.toList).bind (read nesting) = some (t, [])) :
    WellFormed t ∧ SpelledBy t s := by
  obtain ⟨ts, hts, hr⟩ := Option.bind_eq_some_iff.1 h
  obtain ⟨hsp, hn⟩ := spaced_of_scan hts
  obtain ⟨us, he, hs, hf⟩ := read_sound nesting ts t [] hr
  rw [List.append_nil] at he
  subst he
  exact ⟨hf hn, ts, hs, hsp⟩

theorem parse_of_read (hs : scan s.toList = some ts) (hr : read nesting ts = some (t, [])) :
    parse s = t := by
  rw [parse, hs, Option.bind_some, hr]

theorem parse_of_spelledBy (hw : WellFormed t) (hs : SpelledBy t s) : parse s = t := by
  obtain ⟨ts, hs, hsp⟩ := hs
  have hr : read nesting (ts ++ []) = some (t, []) := read_of_spells hw hs (by simp [Closes])
  rw [List.append_nil] at hr
  exact parse_of_read (scan_of_spaced hsp (hw.scannable hs)) hr

theorem parse_of_not_spelledBy (h : ∀ t, WellFormed t → ¬SpelledBy t s) :
    parse s = .raw (String.ofList (Unicode.trim s.toList)) := by
  unfold parse
  split
  case h_1 t hr =>
    obtain ⟨hw, hs⟩ := spelledBy_of_read hr
    exact (h t hw hs).elim
  case h_2 => rfl

/-- A text spells what it is read as, or it spells no reference and is kept as it is. -/
theorem parse_cases (text : String) :
    WellFormed (parse text) ∧ SpelledBy (parse text) text ∨
      parse text = .raw (String.ofList (Unicode.trim text.toList)) ∧
        ∀ t, WellFormed t → ¬SpelledBy t text := by
  by_cases h : ∃ t, WellFormed t ∧ SpelledBy t text
  · obtain ⟨t, hw, hs⟩ := h
    rw [parse_of_spelledBy hw hs]
    exact .inl ⟨hw, hs⟩
  · have hn : ∀ t, WellFormed t → ¬SpelledBy t text := fun t hw hs => h ⟨t, hw, hs⟩
    exact .inr ⟨parse_of_not_spelledBy hn, hn⟩

theorem not_wellFormed_raw (text : String) : ¬WellFormed (.raw text) := by
  intro h
  cases h

theorem not_spelledBy_of_blanks (hb : ∀ c ∈ s.toList, Unicode.isBlank c = true)
    (hw : WellFormed t) : ¬SpelledBy t s := by
  rintro ⟨ts, hs, hsp⟩
  have ht := scan_of_spaced hsp (hw.scannable hs)
  rw [scan_of_spaced (.of_blanks hb) .nil] at ht
  cases ht
  exact hw.spells_ne_nil hs rfl

/-- A text is read as the well-formed reference that it spells, and kept, trimmed, where it spells
none. -/
theorem parse_eq_iff_spelledBy (text : String) :
    (∀ t, WellFormed t → (parse text = t ↔ SpelledBy t text)) ∧
      ((∀ t, WellFormed t → ¬SpelledBy t text) →
        parse text = .raw (String.ofList (Unicode.trim text.toList))) := by
  refine ⟨fun t hw => ⟨?_, parse_of_spelledBy hw⟩, parse_of_not_spelledBy⟩
  rintro rfl
  rcases parse_cases text with ⟨-, hs⟩ | ⟨hr, -⟩
  · exact hs
  · rw [hr] at hw
    exact (not_wellFormed_raw _ hw).elim

theorem parse_eq_iff_spelledBy_array :
    (WellFormed (.array (.nullable (.keyword "int"))) ∧
      SpelledBy (.array (.nullable (.keyword "int"))) "int ?[ , ]" ∧
      parse "int ?[ , ]" = .array (.nullable (.keyword "int"))) ∧
    (∀ t, WellFormed t → ¬SpelledBy t " ") ∧ parse " " = .raw "" := by
  have hw : WellFormed (.array (.nullable (.keyword "int"))) :=
    .array (.nullable (.keyword (by decide)) (by decide)) (by decide)
  have hs : SpelledBy (.array (.nullable (.keyword "int"))) "int ?[ , ]" := by
    refine ⟨[.name "int", .question, .openBracket, .comma, .closeBracket],
      .array 1 (.nullable .keyword), ?_⟩
    exact .token (t := .name "int") (.blank rfl (.token (t := .question) (.token (t := .openBracket)
      (.blank rfl (.token (t := .comma) (.blank rfl (.single .closeBracket)))))))
  have hb : ∀ t, WellFormed t → ¬SpelledBy t " " := fun t hw =>
    not_spelledBy_of_blanks (by simp [Unicode.isBlank]) hw
  exact ⟨⟨hw, hs, ((parse_eq_iff_spelledBy _).1 _ hw).2 hs⟩, hb, (parse_eq_iff_spelledBy " ").2 hb⟩

end TripleSlash.TypeRef
