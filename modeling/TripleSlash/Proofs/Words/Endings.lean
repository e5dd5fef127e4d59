import Mathlib.Data.List.Basic
import TripleSlash.Words.Inflection

namespace TripleSlash.Words

/-- Whether the letters end in `s` but not in `ss`. -/
def EndsInS (cs : List Char) : Prop := ['s'] <:+ cs ∧ ¬['s', 's'] <:+ cs

instance (cs : List Char) : Decidable (EndsInS cs) := instDecidableAnd

theorem endsInS_append (h : verb.getLast? ≠ some 's') : EndsInS (verb ++ ['s']) := by
  constructor
  · exact List.suffix_append verb ['s']
  · intro hs
    apply h
    rw [← List.singleton_suffix_iff_getLast?_eq_some]
    exact List.suffix_append_self_iff.1 hs

theorem endsInS_append_es (cs : List Char) : EndsInS (cs ++ ['e', 's']) := by
  have he : EndsInS ((cs ++ ['e']) ++ ['s']) := endsInS_append (by simp)
  rwa [List.append_assoc] at he

theorem not_endsInS_append (h : c ≠ 's') : ¬EndsInS (cs ++ [c]) := by
  rintro ⟨hs, -⟩
  rw [List.singleton_suffix_iff_getLast?_eq_some, List.getLast?_concat] at hs
  exact h (Option.some.inj hs)

theorem not_endsInS_append_ss (cs : List Char) : ¬EndsInS (cs ++ ['s', 's']) := by
  rintro ⟨-, hs⟩
  exact hs (List.suffix_append cs ['s', 's'])

/-- What becomes of a verb that gets the regular ending. -/
inductive Ended : List Char → List Char → Prop
  | stays : EndsInS verb → Ended verb verb
  | es : ¬EndsInS verb → Ended verb (verb ++ ['e', 's'])
  | s : verb.getLast? ≠ some 's' → Ended verb (verb ++ ['s'])
  | ies : Ended (before ++ ['y']) (before ++ ['i', 'e', 's'])

theorem ended_addEnding (verb : List Char) : Ended verb (addEnding verb) := by
  unfold addEnding
  split
  case h_1 before hr =>
    apply Ended.es
    have hv := List.reverse_eq_cons_iff.1 hr
    rw [List.reverse_cons, List.append_assoc] at hv
    rw [hv]
    exact not_endsInS_append_ss before.reverse
  case h_7 before hss hr =>
    apply Ended.stays
    rw [List.reverse_eq_cons_iff.1 hr]
    apply endsInS_append
    intro hl
    rw [List.getLast?_reverse] at hl
    obtain ⟨cs, rfl⟩ := List.head?_eq_some_iff.1 hl
    exact hss cs rfl
  case h_8 before hr =>
    rw [List.reverse_eq_cons_iff.1 hr]
    split
    case isTrue => exact .s (by simp)
    case isFalse => exact .ies
  case h_9 hs _ =>
    apply Ended.s
    intro hl
    rw [List.getLast?_eq_head?_reverse] at hl
    obtain ⟨cs, hr⟩ := List.head?_eq_some_iff.1 hl
    exact hs cs hr
  case h_2 before hr | h_3 before hr | h_4 before hr | h_5 before hr | h_6 before hr =>
    apply Ended.es
    rw [List.reverse_eq_cons_iff.1 hr]
    exact not_endsInS_append (by decide)

namespace Ended

variable {verb form : List Char}

theorem endsInS (h : Ended verb form) : EndsInS form := by
  cases h with
  | stays hs => exact hs
  | es => exact endsInS_append_es verb
  | s hs => exact endsInS_append hs
  | @ies before =>
    have he := endsInS_append_es (before ++ ['i'])
    rwa [List.append_assoc] at he

theorem eq_of_endsInS (h : Ended verb form) (hs : EndsInS verb) : form = verb := by
  cases h with
  | stays => rfl
  | es hn => exact (hn hs).elim
  | s hn => exact (hn (List.singleton_suffix_iff_getLast?_eq_some.1 hs.1)).elim
  | ies => exact (not_endsInS_append (by decide) hs).elim

theorem mem_or_mem (h : Ended verb form) (hc : c ∈ form) : c ∈ verb ∨ c ∈ ['i', 'e', 's'] := by
  cases h with
  | stays => exact .inl hc
  | es => exact (List.mem_append.1 hc).imp_right (List.mem_cons_of_mem 'i')
  | s => exact (List.mem_append.1 hc).imp_right fun hs => by simp [List.mem_singleton.1 hs]
  | ies => exact (List.mem_append.1 hc).imp_left (List.mem_append_left ['y'])

theorem length_le (h : Ended verb form) : verb.length ≤ form.length := by
  cases h with
  | stays => exact Nat.le_refl _
  | es | s | ies => simp

theorem head?_eq (h : Ended (c :: d :: cs) form) : form.head? = some c := by
  generalize hv : c :: d :: cs = verb at h
  cases h with
  | @ies before =>
    cases before with
    | nil => simp at hv
    | cons x xs => exact congrArg some (List.cons.inj hv).1.symm
  | stays | es | s =>
    rw [← hv]
    rfl

end Ended

/-- The third person of a verb is listed, or it is the verb with the regular ending. -/
theorem inflect_cases (verb : String) :
    (∃ form, (verb, form) ∈ irregular ∧ inflect verb = form.toList) ∨
      Ended verb.toList (inflect verb) := by
  rw [inflect]
  split
  case h_1 form hl =>
    obtain ⟨A, B, he, -⟩ := List.lookup_eq_some_iff.1 hl
    exact .inl ⟨form, by simp [he], rfl⟩
  case h_2 => exact .inr (ended_addEnding verb.toList)

theorem endsInS_inflect (verb : String) : EndsInS (inflect verb) := by
  have hi : ∀ p ∈ irregular, EndsInS p.2.toList := by decide
  rcases inflect_cases verb with ⟨form, hm, he⟩ | he
  · rw [he]
    exact hi _ hm
  · exact he.endsInS

theorem inflect_of_endsInS (h : EndsInS verb.toList) : inflect verb = verb.toList := by
  have hi : ∀ p ∈ irregular, ¬EndsInS p.1.toList := by decide
  rcases inflect_cases verb with ⟨form, hm, -⟩ | he
  · exact (hi _ hm h).elim
  · exact he.eq_of_endsInS h

theorem isLower_of_mem_inflect (h : ∀ c ∈ verb.toList, c.isLower = true) (hc : c ∈ inflect verb) :
    c.isLower = true := by
  have hi : ∀ p ∈ irregular, p.2.toList.all Char.isLower = true := by decide
  have hx : ['i', 'e', 's'].all Char.isLower = true := by decide
  rcases inflect_cases verb with ⟨form, hm, he⟩ | he
  · rw [he] at hc
    exact List.all_eq_true.1 (hi _ hm) c hc
  · rcases he.mem_or_mem hc with hc | hc
    · exact h c hc
    · exact List.all_eq_true.1 hx c hc

theorem two_le_length_inflect (h : 2 ≤ verb.toList.length) : 2 ≤ (inflect verb).length := by
  have hi : ∀ p ∈ irregular, 2 ≤ p.2.toList.length := by decide
  rcases inflect_cases verb with ⟨form, hm, he⟩ | he
  · rw [he]
    exact hi _ hm
  · exact Nat.le_trans h he.length_le

theorem head?_inflect (hv : verb ≠ "be") (hc : verb.toList = c :: d :: cs) :
    (inflect verb).head? = some c := by
  have hi : ∀ p ∈ irregular, p.1 ≠ "be" → p.2.toList.head? = p.1.toList.head? := by decide
  rcases inflect_cases verb with ⟨form, hm, he⟩ | he
  · rw [he, hi _ hm hv, hc]
    rfl
  · rw [hc] at he
    exact he.head?_eq

end TripleSlash.Words
