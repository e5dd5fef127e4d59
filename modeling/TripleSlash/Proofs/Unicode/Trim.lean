import Mathlib.Data.List.DropRight
import TripleSlash.Unicode.Class

namespace TripleSlash.Unicode

theorem trim_eq (cs : List Char) : trim cs = (cs.dropWhile isBlank).rdropWhile isBlank := rfl

/-- What trimming leaves stands in the text with nothing but blanks around it. -/
theorem exists_trim (cs : List Char) :
    ∃ as bs, cs = as ++ (trim cs ++ bs) ∧ (∀ c ∈ as, isBlank c = true) ∧
      ∀ c ∈ bs, isBlank c = true := by
  refine ⟨cs.takeWhile isBlank, (cs.dropWhile isBlank).rtakeWhile isBlank, ?_, ?_, ?_⟩
  · rw [trim_eq, List.rdropWhile_append_rtakeWhile, List.takeWhile_append_dropWhile]
  · exact fun c hc => List.mem_takeWhile_imp hc
  · exact fun c hc => List.mem_rtakeWhile_imp hc

theorem isBlank_eq_false_of_trim (h : trim cs = c :: ds) : isBlank c = false := by
  obtain ⟨es, he⟩ := List.rdropWhile_prefix (cs.dropWhile isBlank) (p := isBlank)
  rw [← trim_eq, h, List.cons_append] at he
  have hd := List.head?_dropWhile_not isBlank cs
  rw [← he] at hd
  simpa using hd

theorem trim_trim (cs : List Char) : trim (trim cs) = trim cs := by
  have hd : (trim cs).dropWhile isBlank = trim cs := by
    cases h : trim cs with
    | nil => rfl
    | cons c ds => simp [isBlank_eq_false_of_trim h]
  rw [trim_eq (trim cs), hd, trim_eq, List.rdropWhile_idempotent]

end TripleSlash.Unicode
