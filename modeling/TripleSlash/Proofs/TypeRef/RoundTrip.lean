import TripleSlash.Proofs.TypeRef.Parsing
import TripleSlash.Proofs.Unicode.Trim

namespace TripleSlash.TypeRef

open Token

/-- A token in the plain spelling of a reference. -/
def Token.plain : Token → List Char
  | .comma => [',', ' ']
  | t => t.chars

theorem spaced_flatMap {write : Token → List Char}
    (h : ∀ t, ∃ bs, write t = t.chars ++ bs ∧ ∀ b ∈ bs, Unicode.isBlank b = true)
    (ts : List Token) : Spaced ts (ts.flatMap write) := by
  induction ts with
  | nil => exact .nil
  | cons t ts ih =>
    obtain ⟨bs, hw, hb⟩ := h t
    rw [List.flatMap_cons, hw, List.append_assoc]
    exact .token ((Spaced.of_blanks hb).append ih)

theorem exists_plain_eq_append (t : Token) :
    ∃ bs, t.plain = t.chars ++ bs ∧ ∀ b ∈ bs, Unicode.isBlank b = true := by
  cases t with
  | comma => exact ⟨[' '], rfl, List.forall_mem_singleton.2 rfl⟩
  | _ => exact ⟨[], (List.append_nil _).symm, by simp⟩

theorem exists_joined {sep : Token} {between : String} (hb : between.toList = sep.plain)
    (hne : as ≠ []) (ha : ∀ a ∈ as, ∃ ts, Spells a ts ∧ a.text.toList = ts.flatMap plain) :
    ∃ ts, Joined Spells sep as ts ∧ (between.intercalate (texts as)).toList = ts.flatMap plain := by
  induction as with
  | nil => exact (hne rfl).elim
  | cons a as ih =>
    obtain ⟨ts, hs, ht⟩ := ha a List.mem_cons_self
    cases as with
    | nil => exact ⟨ts, .single hs, by simpa [texts] using ht⟩
    | cons b bs =>
      obtain ⟨us, hj, hu⟩ :=
        ih (List.cons_ne_nil b bs) fun c hc => ha c (List.mem_cons_of_mem a hc)
      refine ⟨ts ++ sep :: us, .cons hs hj, ?_⟩
      simpa [texts, hb, ht] using hu

theorem Fits.exists_plain (h : Fits room t) :
    ∃ ts, Spells t ts ∧ t.text.toList = ts.flatMap plain := by
  induction h with
  | @keyword t => exact ⟨_, .keyword, by simp [text, plain, chars]⟩
  | @named t => exact ⟨_, .named, by simp [text, plain, chars]⟩
  | @dotted ss room hl _ _ ih =>
    have hne : ss ≠ [] := List.ne_nil_of_length_pos (by omega)
    have hb : ".".toList = Token.dot.plain := rfl
    obtain ⟨ts, hj, ht⟩ := exists_joined hb hne ih
    exact ⟨ts, .dotted hj, ht⟩
  | @generic c as room _ hne _ ih =>
    have hb : ", ".toList = Token.comma.plain := rfl
    obtain ⟨ts, hj, ht⟩ := exists_joined hb hne ih
    exact ⟨_, .generic hj, by simp [text, plain, chars, ht]⟩
  | @array room e _ _ ih =>
    obtain ⟨ts, hs, ht⟩ := ih
    exact ⟨_, .array 0 hs, by simp [text, plain, chars, ht]⟩
  | @nullable room e _ _ ih =>
    obtain ⟨ts, hs, ht⟩ := ih
    exact ⟨_, .nullable hs, by simp [text, plain, chars, ht]⟩

/-- The plain spelling of a reference that fits spells it. -/
theorem Fits.spelledBy_text (h : Fits room t) : SpelledBy t t.text := by
  obtain ⟨ts, hs, ht⟩ := h.exists_plain
  exact ⟨ts, hs, ht ▸ spaced_flatMap exists_plain_eq_append ts⟩

theorem SpelledBy.of_trim (h : SpelledBy t (String.ofList (Unicode.trim s.toList))) :
    SpelledBy t s := by
  obtain ⟨ts, hs, hsp⟩ := h
  rw [String.toList_ofList] at hsp
  obtain ⟨as, bs, he, ha, hb⟩ := Unicode.exists_trim s.toList
  refine ⟨ts, hs, ?_⟩
  rw [he]
  simpa using (Spaced.of_blanks ha).append (hsp.append (.of_blanks hb))

/-- The plain spelling of what a text is read as is read as the same reference. -/
theorem parse_text_parse (s : String) : parse (parse s).text = parse s := by
  rcases parse_cases s with ⟨hw, -⟩ | ⟨hr, hn⟩
  · exact parse_of_spelledBy hw hw.spelledBy_text
  · have hn' : ∀ t, WellFormed t → ¬SpelledBy t (String.ofList (Unicode.trim s.toList)) :=
      fun t hw hs => hn t hw hs.of_trim
    rw [hr, text, parse_of_not_spelledBy hn', String.toList_ofList, Unicode.trim_trim]

end TripleSlash.TypeRef
