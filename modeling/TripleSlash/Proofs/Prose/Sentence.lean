import TripleSlash.Proofs.Prose.MovedIs
import TripleSlash.Proofs.Words.ThirdPerson

namespace TripleSlash.Prose

open Words

/-- Whether the text is a sentence that says something of the name after its lead. -/
def Says (lead name text : String) : Prop :=
  ∃ said, text = lead ++ said ++ "." ∧ Shows name said

theorem says_append_iff : Says lead name (lead ++ said ++ ".") ↔ Shows name said := by
  constructor
  · rintro ⟨other, he, hs⟩
    rw [String.append_left_inj, String.append_right_inj] at he
    rwa [he]
  · exact fun hs => ⟨said, rfl, hs⟩

theorem says_methodSummary (hn : name ≠ "") (hbe : inflected = true → name ∉ ["be", "Be"]) :
    Says "" name (methodSummary name inflected) := by
  refine ⟨_, congrArg (· ++ ".") String.empty_append.symm, ?_⟩
  cases inflected with
  | false => exact shows_recase hn (by simp) false
  | true =>
    obtain ⟨w, ws, hs⟩ := exists_split_eq_cons name
    have hr : recase false false (split name) = w :: ws.map lower := by simp [hs, recase]
    rw [if_pos rfl, hr, List.modifyHead_cons]
    cases ws with
    | nil =>
      rw [eq_of_split_eq_singleton hs]
      exact (shows_thirdPerson hn (hbe rfl)).join List.mem_cons_self
    | cons v vs =>
      have hv : v ∈ split name := by simp [hs]
      exact (shows_lower_of_mem_split hn hv).join (by simp)

theorem says_nounPhrase (hn : name ≠ "") (hd : dropInitial = true → name.length ≠ 1) :
    Says "The " name (nounPhrase name dropInitial) :=
  ⟨_, rfl, shows_recase hn hd true⟩

theorem says_nounPhrase_false (hn : name ≠ "") : Says "The " name (nounPhrase name false) :=
  says_nounPhrase hn (by simp)

def parameterLead (boolean : Bool) : String := if boolean then "If true, " else "The "

theorem says_parameterText (hn : name ≠ "") (boolean : Bool) :
    Says (parameterLead boolean) name (parameterText name boolean) := by
  cases boolean with
  | false => exact says_nounPhrase_false hn
  | true => exact ⟨_, rfl, shows_phrase hn true⟩

def typeParameterLead (name : String) : String :=
  if name.length = 1 then "The type of " else "The type of the "

theorem typeParameterText_of_length_ne (h : name.length ≠ 1) :
    typeParameterText name =
      "The type of the " ++ join (recase true true (split name)) ++ "." := by
  rw [typeParameterText]
  split
  case h_1 w hs =>
    rw [hs, eq_of_split_eq_singleton hs, if_neg (by simpa using h)]
  case h_2 => rfl

theorem says_typeParameterText (hn : name ≠ "") :
    Says (typeParameterLead name) name (typeParameterText name) := by
  rw [typeParameterLead]
  split
  case isTrue h =>
    rw [typeParameterText, split_of_length_eq_one h]
    exact ⟨_, if_pos (by simpa using h), shows_upper hn⟩
  case isFalse h =>
    rw [typeParameterText_of_length_ne h]
    exact ⟨_, rfl, shows_recase hn (fun _ => h) true⟩

def propertyLead (visible : VisibleAccessors) (boolean : Bool) : String :=
  accessVerb visible ++ " " ++ if boolean then "a value indicating whether " else "the "

theorem says_propertySummary (hn : name ≠ "") (visible : VisibleAccessors) (boolean : Bool) :
    Says (propertyLead visible boolean) name (propertySummary name visible boolean) := by
  cases boolean with
  | false =>
    refine ⟨phrase true name, ?_, shows_phrase hn true⟩
    simp only [propertySummary, propertyLead, Bool.false_eq_true, if_false, String.append_assoc]
  | true =>
    obtain ⟨w, hw, hs⟩ : ∃ w ∈ recase true false (split name), Shows name w :=
      exists_shows_mem_recase hn (by simp) true
    refine ⟨_, ?_, hs.join ((perm_moveIs _).mem_iff.2 hw)⟩
    simp only [propertySummary, propertyLead, if_true, String.append_assoc]

theorem says_eventSummary (hn : name ≠ "") (phrases : Phrases) :
    Says phrases.eventLead name (eventSummary name phrases) :=
  ⟨_, rfl, shows_phrase hn true⟩

theorem says_enumMemberSummary (hn : name ≠ "") : Says "" name (enumMemberSummary name) :=
  ⟨_, congrArg (· ++ ".") String.empty_append.symm, shows_phrase hn false⟩

end TripleSlash.Prose
