import TripleSlash.Proofs.Words.Endings
import TripleSlash.Proofs.Words.Splitting

namespace TripleSlash.Words

open Unicode

theorem isPlain_iff {cs : List Char} :
    isPlain cs = true ↔ ∃ c d ds, cs = c :: d :: ds ∧ (∀ x ∈ cs, isAlphabetic x = true) ∧
      ∀ x ∈ d :: ds, isUppercase x = false := by
  match cs with
  | [] | [_] => simp [isPlain]
  | c :: d :: ds => simp [isPlain]

/-- The letters of a form, the first a capital if wanted. -/
def initialed (capital : Bool) (form : List Char) : List Char :=
  if capital then capitalize form else form

/-- Whether the word is put in the third person: it is plain, and on neither list of words that
stay as they are. -/
def IsVerb (word : String) : Prop :=
  isPlain word.toList = true ∧ lower word ∉ uninflected ++ nonVerbs

instance (word : String) : Decidable (IsVerb word) := instDecidableAnd

theorem thirdPerson_of_not_isVerb (h : ¬IsVerb word) : thirdPerson word = word := by
  rw [IsVerb, List.mem_append, not_and, not_not] at h
  rw [thirdPerson, if_pos]
  cases hp : isPlain word.toList with
  | false => rfl
  | true => simpa [or_assoc] using h hp

theorem toList_thirdPerson_of_isVerb (h : IsVerb word) :
    (thirdPerson word).toList =
      initialed (word.toList.head?.any isUppercase) (inflect (lower word)) := by
  obtain ⟨hp, hl⟩ := h
  rw [List.mem_append, not_or] at hl
  rw [thirdPerson, if_neg (by simp [hp, hl]), String.toList_ofList]
  rfl

theorem mem_of_lower_eq_be (hp : isPlain word.toList = true) (hl : lower word = "be") :
    word ∈ ["be", "Be"] := by
  obtain ⟨c, d, ds, hc, -, hu⟩ := isPlain_iff.1 hp
  have hw : lowerFrom [] (c :: d :: ds) = ['b', 'e'] := by
    rw [← hc]
    exact String.ofList_injective hl
  obtain ⟨hb, hw⟩ := eq_of_lowerFrom_eq_cons hw (by decide)
  obtain ⟨he, hw⟩ := eq_of_lowerFrom_eq_cons hw (by decide)
  have hd : d = 'e' := he.resolve_right fun he => by
    have hE := hu d List.mem_cons_self
    rw [he] at hE
    exact absurd hE (by decide)
  have hds : ds = [] := by
    cases ds with
    | nil => rfl
    | cons e es =>
      obtain ⟨x, xs, hx, -⟩ := exists_lowerFrom_eq_cons [d, c] e es
      rw [hw] at hx
      cases hx
  subst hd hds
  rcases hb with rfl | rfl
  · exact List.mem_pair.2 (.inl (String.toList_inj.1 hc))
  · exact List.mem_pair.2 (.inr (String.toList_inj.1 hc))

/-- A word and its third person have a letter in common, unless the word is `be`. -/
theorem shows_thirdPerson (hw : word ≠ "") (hbe : word ∉ ["be", "Be"]) :
    Shows word (thirdPerson word) := by
  by_cases hv : IsVerb word
  case neg =>
    rw [thirdPerson_of_not_isVerb hv]
    exact shows_self hw
  case pos =>
    have hl : lower word ≠ "be" := fun hl => hbe (mem_of_lower_eq_be hv.1 hl)
    obtain ⟨c, d, ds, hc, -, -⟩ := isPlain_iff.1 hv.1
    obtain ⟨x, y, ys, hx, hxc⟩ := exists_lowercase_eq_cons_cons c d ds
    have hf : (inflect (lower word)).head? = some x :=
      head?_inflect hl (by rw [lower, String.toList_ofList, hc, hx])
    obtain ⟨xs, hf⟩ := List.head?_eq_some_iff.1 hf
    refine ⟨c, hc ▸ List.mem_cons_self, ?_⟩
    rw [toList_thirdPerson_of_isVerb hv, hf, initialed]
    split
    case isTrue =>
      obtain ⟨z, zs, hz⟩ := exists_upperChar_eq_cons x
      refine ⟨z, by simp [capitalize, hz], ?_⟩
      exact mem_caseForms_of_mem_upperChar_lowerForms hxc (hz ▸ List.mem_cons_self)
    case isFalse => exact ⟨x, List.mem_cons_self, mem_caseForms_of_mem_lowerForms hxc⟩

end TripleSlash.Words
