import TripleSlash.Proofs.Prose.Phrase
import TripleSlash.Proofs.Words.ThirdPerson

namespace TripleSlash.Words

open Unicode

/-- Whether the word consists of ASCII letters. -/
def IsAsciiLetters (word : String) : Prop := ∀ c ∈ word.toList, c.isAlpha = true

instance (word : String) : Decidable (IsAsciiLetters word) :=
  List.decidableBAll (fun c : Char => c.isAlpha = true) word.toList

namespace IsAsciiLetters

variable {word : String}

theorem isAsciiWord (h : IsAsciiLetters word) : IsAsciiWord word := by
  intro c hc
  refine ⟨lt_of_isAlpha (h c hc), ?_⟩
  rintro rfl
  exact absurd (h ' ' hc) (by decide)

theorem toList_lower (h : IsAsciiLetters word) :
    (lower word).toList = word.toList.map Char.toLower := by
  rw [lower, String.toList_ofList, lowercase, lowerFrom_of_lt fun c hc => lt_of_isAlpha (h c hc)]

theorem isLower_of_mem_lower (h : IsAsciiLetters word) (hc : c ∈ (lower word).toList) :
    c.isLower = true := by
  rw [h.toList_lower] at hc
  obtain ⟨d, hd, rfl⟩ := List.mem_map.1 hc
  exact isLower_toLower (h d hd)

theorem initialed_lower (h : IsAsciiLetters word) (hp : isPlain word.toList = true) :
    initialed (word.toList.head?.any isUppercase) (lower word).toList = word.toList := by
  obtain ⟨c, d, ds, hc, -, hu⟩ := isPlain_iff.1 hp
  rw [initialed]
  split
  case isTrue hs =>
    have hi : ∀ x ∈ word.toList.tail, isUppercase x = false := hc ▸ hu
    exact capitalize_lower h.isAsciiWord hs hi
  case isFalse hs =>
    have hl : ∀ x ∈ word.toList, x.toLower = id x := by
      intro x hx
      apply toLower_eq_self (lt_of_isAlpha (h x hx))
      rw [hc] at hx hs
      rcases List.mem_cons.1 hx with rfl | hx
      · simpa using hs
      · exact hu x hx
    rw [h.toList_lower, List.map_congr_left hl, List.map_id]

theorem thirdPerson_eq_self (h : IsAsciiLetters word) (hs : EndsInS (lower word).toList) :
    thirdPerson word = word := by
  by_cases hv : IsVerb word
  case pos =>
    rw [← String.toList_inj, toList_thirdPerson_of_isVerb hv, inflect_of_endsInS hs,
      h.initialed_lower hv.1]
  case neg => exact thirdPerson_of_not_isVerb hv

end IsAsciiLetters

section Forms

theorem map_toLower_eq_self {cs : List Char} (h : ∀ c ∈ cs, c.isLower = true) :
    cs.map Char.toLower = cs := by
  have hl : ∀ c ∈ cs, c.toLower = id c := by
    intro c hc
    have ha := lt_of_isAlpha (isAlpha_of_isLower (h c hc))
    exact toLower_eq_self ha (isUppercase_of_isLower (h c hc))
  rw [List.map_congr_left hl, List.map_id]

theorem exists_initialed_eq_cons (h : x.isLower = true) (xs : List Char) (capital : Bool) :
    ∃ d, initialed capital (x :: xs) = d :: xs ∧ isUppercase d = capital ∧ d.isAlpha = true ∧
      d.toLower = x := by
  have ha := isAlpha_of_isLower h
  have hu := isUppercase_of_isLower h
  cases capital with
  | false => exact ⟨x, rfl, hu, ha, toLower_eq_self (lt_of_isAlpha ha) hu⟩
  | true =>
    obtain ⟨d, hd, hdu, hda, hl⟩ := exists_capital h
    refine ⟨d, ?_, hdu, hda, hl⟩
    rw [initialed, if_pos rfl, capitalize, hd, List.singleton_append]

variable {xs : List Char}

theorem map_toLower_initialed (h : ∀ c ∈ x :: xs, c.isLower = true) (capital : Bool) :
    (initialed capital (x :: xs)).map Char.toLower = x :: xs := by
  rw [List.forall_mem_cons] at h
  obtain ⟨d, hd, -, -, hl⟩ := exists_initialed_eq_cons h.1 xs capital
  rw [hd, List.map_cons, hl, map_toLower_eq_self h.2]

theorem isAlpha_of_mem_initialed (h : ∀ c ∈ x :: xs, c.isLower = true)
    (hc : c ∈ initialed capital (x :: xs)) : c.isAlpha = true := by
  rw [List.forall_mem_cons] at h
  obtain ⟨d, hd, -, ha, -⟩ := exists_initialed_eq_cons h.1 xs capital
  rw [hd] at hc
  rcases List.mem_cons.1 hc with rfl | hc
  · exact ha
  · exact isAlpha_of_isLower (h.2 c hc)

theorem head?_initialed (h : x.isLower = true) (xs : List Char) (capital : Bool) :
    (initialed capital (x :: xs)).head?.any isUppercase = capital := by
  obtain ⟨d, hd, hu, -, -⟩ := exists_initialed_eq_cons h xs capital
  rw [hd]
  exact hu

theorem endsInS_initialed (h : x.isLower = true) (hn : xs ≠ []) (hs : EndsInS (x :: xs))
    (capital : Bool) : EndsInS (initialed capital (x :: xs)) := by
  obtain ⟨d, hd, -, -, hl⟩ := exists_initialed_eq_cons h xs capital
  rw [hd]
  constructor
  · rcases List.suffix_cons_iff.1 hs.1 with he | hs
    · exact (hn (List.cons.inj he).2.symm).elim
    · exact List.suffix_cons_iff.2 (.inr hs)
  · intro hss
    rcases List.suffix_cons_iff.1 hss with he | hss
    · obtain ⟨rfl, rfl⟩ := List.cons.inj he
      rw [← hl] at hs
      exact absurd hs (by decide)
    · exact hs.2 (List.suffix_cons_iff.2 (.inr hss))

end Forms

/-- What becomes of a verb: a lower-case form with the ending, its first letter in the case of the
verb's. -/
theorem exists_form (h : IsAsciiLetters word) (hv : IsVerb word) :
    ∃ x xs, (thirdPerson word).toList = initialed (word.toList.head?.any isUppercase) (x :: xs) ∧
      (∀ c ∈ x :: xs, c.isLower = true) ∧ xs ≠ [] ∧ EndsInS (x :: xs) := by
  have hlower : ∀ c ∈ inflect (lower word), c.isLower = true := by
    intro c hc
    exact isLower_of_mem_inflect (fun _ => h.isLower_of_mem_lower) hc
  have hlength : 2 ≤ (inflect (lower word)).length := by
    apply two_le_length_inflect
    obtain ⟨c, d, ds, hc, -, -⟩ := isPlain_iff.1 hv.1
    simp [h.toList_lower, hc]
  have hs := endsInS_inflect (lower word)
  rw [toList_thirdPerson_of_isVerb hv]
  match inflect (lower word), hlower, hlength, hs with
  | x :: y :: ys, hlower, _, hs => exact ⟨x, y :: ys, rfl, hlower, List.cons_ne_nil y ys, hs⟩

/-- The third person of a word is its own third person, starts with a capital where the word does,
and ends in a single `s` where it is another word; only a verb without that ending becomes
another. -/
theorem thirdPerson_stable (h : IsAsciiLetters word) :
    thirdPerson (thirdPerson word) = thirdPerson word ∧
      (thirdPerson word).toList.head?.any isUppercase = word.toList.head?.any isUppercase ∧
      (thirdPerson word ≠ word → EndsInS (thirdPerson word).toList) ∧
      (thirdPerson word = word ↔ (IsVerb word → EndsInS (lower word).toList)) := by
  by_cases hv : IsVerb word
  case neg =>
    have he := thirdPerson_of_not_isVerb hv
    rw [he]
    exact ⟨he, rfl, fun hn => (hn rfl).elim, iff_of_true rfl fun hv' => (hv hv').elim⟩
  case pos =>
    obtain ⟨x, xs, hr, hl, hn, hs⟩ := exists_form h hv
    have hx : x.isLower = true := hl x List.mem_cons_self
    have hword : IsAsciiLetters (thirdPerson word) := by
      intro c hc
      rw [hr] at hc
      exact isAlpha_of_mem_initialed hl hc
    have hlower : (lower (thirdPerson word)).toList = x :: xs := by
      rw [hword.toList_lower, hr, map_toLower_initialed hl]
    refine ⟨?_, ?_, ?_, ?_⟩
    · apply hword.thirdPerson_eq_self
      rw [hlower]
      exact hs
    · rw [hr]
      exact head?_initialed hx xs _
    · intro _
      rw [hr]
      exact endsInS_initialed hx hn hs _
    · constructor
      · intro he _
        rw [← he, hlower]
        exact hs
      · intro hi
        exact h.thirdPerson_eq_self (hi hv)

theorem thirdPerson_stable_go :
    IsAsciiLetters "Go" ∧ thirdPerson "Go" = "Goes" ∧ thirdPerson "Goes" = "Goes" ∧
      EndsInS "Goes".toList := by
  have h : IsAsciiLetters "Go" := by decide
  have hg : thirdPerson "Go" = "Goes" := by decide
  obtain ⟨hi, -, hs, -⟩ := thirdPerson_stable h
  rw [hg] at hi hs
  exact ⟨h, hg, hi, hs (by decide)⟩

end TripleSlash.Words
