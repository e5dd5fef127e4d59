import Mathlib.Data.List.InsertIdx
import TripleSlash.Prose.Sentence

namespace TripleSlash

namespace Words

theorem recase_true (words : List String) : recase true false words = words.map lower := by
  cases words with
  | nil => rfl
  | cons w ws => rfl

end Words

namespace Prose

open Words

theorem moveIs_of_notMem (h : "is" ∉ words) : moveIs words = words := by
  rw [moveIs, if_neg]
  rwa [List.contains_iff_mem]

theorem moveIs_of_mem (h : "is" ∈ words) :
    moveIs words = (words.erase "is").dropLast ++ "is" :: (words.erase "is").getLast?.toList := by
  rw [moveIs, if_pos]
  rwa [List.contains_iff_mem]

theorem dropLast_append_cons_getLast? (w : String) (words : List String) :
    words.dropLast ++ w :: words.getLast?.toList = words.insertIdx (words.length - 1) w := by
  induction words with
  | nil => rfl
  | cons v vs ih =>
    cases vs with
    | nil => rfl
    | cons u us => exact congrArg (v :: ·) ih

/-- The first `is` is taken out and put back in front of the last of the other words. -/
theorem moveIs_eq_insertIdx (h : "is" ∈ words) :
    moveIs words = (words.erase "is").insertIdx (words.length - 2) "is" := by
  rw [moveIs_of_mem h, dropLast_append_cons_getLast?, List.length_erase_of_mem h]
  rfl

theorem perm_moveIs (words : List String) : (moveIs words).Perm words := by
  by_cases h : "is" ∈ words
  case pos =>
    have hlen : words.length - 2 ≤ (words.erase "is").length := by
      rw [List.length_erase_of_mem h]
      omega
    rw [moveIs_eq_insertIdx h]
    exact (List.perm_insertIdx "is" _ hlen).trans (List.perm_cons_erase h).symm
  case neg => rw [moveIs_of_notMem h]

theorem length_moveIs (words : List String) : (moveIs words).length = words.length :=
  (perm_moveIs words).length_eq

/-- Whether the second list is the first with its first `is` moved to the place before the last of
the other words, or to the only place. -/
structure IsMoved (words moved : List String) : Prop where
  perm : moved.Perm words
  eq_self : "is" ∉ words → moved = words
  eraseIdx_eq : "is" ∈ words → moved.eraseIdx (moved.length - 2) = words.erase "is"
  getElem?_eq : "is" ∈ words → moved[moved.length - 2]? = some "is"
  before_last : "is" ∈ words → 2 ≤ words.length → ∃ init last, moved = init ++ ["is", last]

theorem isMoved_moveIs (words : List String) : IsMoved words (moveIs words) := by
  constructor
  case perm => exact perm_moveIs words
  case eq_self => exact moveIs_of_notMem
  case eraseIdx_eq =>
    intro h
    rw [length_moveIs, moveIs_eq_insertIdx h, List.eraseIdx_insertIdx_self]
  case getElem?_eq =>
    intro h
    have hlen := List.length_erase_of_mem h
    rw [length_moveIs, moveIs_eq_insertIdx h, List.getElem?_insertIdx_self, if_pos]
    omega
  case before_last =>
    intro h hlen
    have hne : words.erase "is" ≠ [] := by
      apply List.ne_nil_of_length_pos
      rw [List.length_erase_of_mem h]
      omega
    refine ⟨(words.erase "is").dropLast, (words.erase "is").getLast hne, ?_⟩
    rw [moveIs_of_mem h, List.getLast?_eq_some_getLast hne]
    rfl

/-- The sentence on a boolean property has the words of the name in lower case, with `is` moved. -/
theorem isMoved_propertySummary (name : String) (visible : VisibleAccessors) :
    let moved := moveIs (recase true false (split name))
    propertySummary name visible true =
        accessVerb visible ++ " " ++ "a value indicating whether " ++ join moved ++ "." ∧
      IsMoved ((split name).map lower) moved := by
  intro moved
  constructor
  · simp only [propertySummary, if_true, String.append_assoc, moved]
  · rw [← recase_true]
    exact isMoved_moveIs _

theorem isMoved_propertySummary_twice :
    let words := ["is", "item", "is", "visible"]
    "is" ∈ words ∧ 2 ≤ words.length ∧ IsMoved words ["item", "is", "is", "visible"] ∧
      propertySummary "IsItemIsVisible" ⟨true, true⟩ true =
        "Gets or sets a value indicating whether item is is visible." := by
  have h := isMoved_propertySummary "IsItemIsVisible" ⟨true, true⟩
  have hw : (split "IsItemIsVisible").map lower = ["is", "item", "is", "visible"] := by decide
  have hm : moveIs (recase true false (split "IsItemIsVisible")) =
      ["item", "is", "is", "visible"] := by decide
  rw [hw, hm] at h
  exact ⟨by decide, by decide, h.2, h.1.trans (by decide)⟩

end Prose

end TripleSlash
