import Mathlib.Data.List.Basic
import TripleSlash.Proofs.Words.Capitals
import TripleSlash.Prose.Sentence

namespace TripleSlash

namespace Text

/-- Whether spaces stand only alone and only inside the text. -/
structure SinglySpaced (s : String) : Prop where
  head : s.toList.head? ≠ some ' '
  last : s.toList.getLast? ≠ some ' '
  inner : ¬[' ', ' '] <:+: s.toList

theorem singlySpaced_of_splitOn (h : [] ∉ s.toList.splitOn ' ') : SinglySpaced s := by
  have hstart (cs : List Char) : [] ∈ (' ' :: cs).splitOn ' ' := by
    simp [List.splitOn_cons_eq_if_modifyHead]
  constructor
  case head =>
    intro hs
    obtain ⟨cs, hs⟩ := List.head?_eq_some_iff.1 hs
    exact h (hs ▸ hstart cs)
  case last =>
    intro hs
    obtain ⟨cs, hs⟩ := List.getLast?_eq_some_iff.1 hs
    rw [hs, List.splitOn_append_cons_self] at h
    exact h (List.mem_append_right _ List.mem_cons_self)
  case inner =>
    rintro ⟨cs, ds, hs⟩
    rw [← hs, List.append_assoc, List.cons_append,
      List.splitOn_append_cons_self] at h
    exact h (List.mem_append_right _ (hstart ds))

end Text

namespace Words

open Unicode

theorem splitOn_join (hne : words ≠ []) (h : ∀ w ∈ words, ' ' ∉ w.toList) :
    (join words).toList.splitOn ' ' = words.map String.toList := by
  rw [join, String.toList_intercalate]
  exact List.splitOn_intercalate ' ' (List.forall_mem_map.2 h) (List.map_eq_nil_iff.not.2 hne)

theorem lower_ne_empty (hw : w ≠ "") : lower w ≠ "" := by
  rintro he
  obtain ⟨c, -, x, hx, -⟩ := shows_lower hw
  rw [he] at hx
  cases hx

theorem space_notMem_lower (h : ' ' ∉ w.toList) : ' ' ∉ (lower w).toList := by
  intro hs
  rw [lower, String.toList_ofList] at hs
  obtain ⟨c, hc, hf⟩ := exists_mem_lowerForms hs
  exact h (eq_space_of_mem_lowerForms hf ▸ hc)

theorem space_notMem_of_mem_split (h : ' ' ∉ name.toList) (hw : w ∈ split name) :
    ' ' ∉ w.toList :=
  fun hs => h (mem_toList_of_mem_split hw hs)

theorem recase_false_cons (lowerFirst : Bool) (w : String) (ws : List String) :
    recase lowerFirst false (w :: ws) = (if lowerFirst then lower w else w) :: ws.map lower := rfl

theorem mem_recase (h : w ∈ recase lowerFirst false words) : ∃ v ∈ words, w = v ∨ w = lower v := by
  cases words with
  | nil => cases h
  | cons v vs =>
    rw [recase_false_cons] at h
    rcases List.mem_cons.1 h with rfl | h
    · refine ⟨v, List.mem_cons_self, ?_⟩
      split
      · exact .inr rfl
      · exact .inl rfl
    · obtain ⟨u, hu, rfl⟩ := List.mem_map.1 h
      exact ⟨u, List.mem_cons_of_mem v hu, .inr rfl⟩

theorem splitOn_phrase (h : ' ' ∉ name.toList) (lowerFirst : Bool) :
    (phrase lowerFirst name).toList.splitOn ' ' =
      (recase lowerFirst false (split name)).map String.toList := by
  apply splitOn_join
  · obtain ⟨w, ws, hs⟩ := exists_split_eq_cons name
    rw [hs, recase_false_cons]
    exact List.cons_ne_nil _ _
  · intro w hw
    obtain ⟨v, hv, rfl | rfl⟩ := mem_recase hw
    · exact space_notMem_of_mem_split h hv
    · exact space_notMem_lower (space_notMem_of_mem_split h hv)

theorem singlySpaced_phrase (hn : name ≠ "") (h : ' ' ∉ name.toList) (lowerFirst : Bool) :
    Text.SinglySpaced (phrase lowerFirst name) := by
  apply Text.singlySpaced_of_splitOn
  rw [splitOn_phrase h]
  intro he
  obtain ⟨w, hw, he⟩ := List.mem_map.1 he
  have hw' : w = "" := String.toList_eq_nil_iff.1 he
  obtain ⟨v, hv, rfl | rfl⟩ := mem_recase hw
  · exact ne_empty_of_mem_split hn hv hw'
  · exact lower_ne_empty (ne_empty_of_mem_split hn hv) hw'

/-- The name that a phrase is made from: its words, all but the first with a capital first letter,
put together. -/
def unphrase (text : String) : String :=
  match text.toList.splitOn ' ' with
  | [] => ""
  | piece :: pieces => String.ofList (piece ++ pieces.flatMap capitalize)

/-- Whether the name is ASCII text without a space. -/
def IsAsciiWord (name : String) : Prop := ∀ c ∈ name.toList, c.toNat < 0x80 ∧ c ≠ ' '

instance (name : String) : Decidable (IsAsciiWord name) :=
  List.decidableBAll (fun c : Char => c.toNat < 0x80 ∧ c ≠ ' ') name.toList

theorem IsAsciiWord.space_notMem (h : IsAsciiWord name) : ' ' ∉ name.toList :=
  fun hs => (h _ hs).2 rfl

theorem IsAsciiWord.of_mem_split (h : IsAsciiWord name) (hw : w ∈ split name) :
    IsAsciiWord w :=
  fun c hc => h c (mem_toList_of_mem_split hw hc)

theorem capitalize_lower (h : IsAsciiWord w) (hs : w.toList.head?.any isUppercase = true)
    (hi : ∀ c ∈ w.toList.tail, isUppercase c = false) : capitalize (lower w).toList = w.toList := by
  rw [lower, String.toList_ofList, lowercase, lowerFrom_of_lt fun c hc => (h c hc).1]
  unfold IsAsciiWord at h
  cases hw : w.toList with
  | nil => rfl
  | cons c cs =>
    rw [hw] at h hs hi
    rw [List.forall_mem_cons] at h
    have htail : cs.map Char.toLower = cs :=
      (List.map_congr_left fun d hd => toLower_eq_self (h.2 d hd).1 (hi d hd)).trans
        (List.map_id cs)
    rw [List.map_cons, capitalize, upperChar_toLower h.1.1 (by simpa using hs), htail,
      List.singleton_append]

theorem unphrase_phrase (h : IsAsciiWord name) : unphrase (phrase false name) = name := by
  obtain ⟨w, ws, hs⟩ := exists_split_eq_cons name
  have hc : CutsAtCapitals (w :: ws) name := hs ▸ cutsAtCapitals_split name
  have hws : ∀ v ∈ ws, capitalize (lower v).toList = v.toList := by
    intro v hv
    have hm : v ∈ split name := by simp [hs, hv]
    exact capitalize_lower (h.of_mem_split hm) (hc.starts v hv)
      (hc.inner v (List.mem_cons_of_mem w hv))
  have hf : ((ws.map lower).map String.toList).flatMap capitalize = ws.flatMap String.toList := by
    rw [List.map_map, List.flatMap_map]
    exact List.flatMap_congr hws
  rw [unphrase, splitOn_phrase h.space_notMem, hs, recase_false_cons]
  change String.ofList (w.toList ++ ((ws.map lower).map String.toList).flatMap capitalize) = name
  rw [hf, ← List.flatMap_cons, ← hs, flatMap_toList_split, String.ofList_toList]

theorem phrase_inj (h : IsAsciiWord name) (h' : IsAsciiWord name')
    (he : phrase false name = phrase false name') : name = name' := by
  rw [← unphrase_phrase h, he, unphrase_phrase h']

end Words

namespace Prose

open Words

/-- A name can be read off the phrase that it is written as, and so off the sentences that are that
phrase and a period. -/
theorem phrase_keeps_name :
    (∀ name, IsAsciiWord name → unphrase (phrase false name) = name) ∧
      (∀ name other, IsAsciiWord name → IsAsciiWord other →
        enumMemberSummary name = enumMemberSummary other → name = other) ∧
      (∀ name other, IsAsciiWord name → IsAsciiWord other →
        methodSummary name false = methodSummary other false → name = other) ∧
      ∀ name lowerFirst, name ≠ "" → ' ' ∉ name.toList →
        Text.SinglySpaced (phrase lowerFirst name) := by
  refine ⟨fun _ => unphrase_phrase, fun name other h h' he => ?_, fun name other h h' he => ?_,
    fun name lowerFirst hn hs => singlySpaced_phrase hn hs lowerFirst⟩
  · exact phrase_inj h h' ((String.append_left_inj ".").1 he)
  · exact phrase_inj h h' ((String.append_left_inj ".").1 he)

theorem phrase_keeps_name_xml :
    (IsAsciiWord "get_XMLText" ∧ unphrase "get_ x m l text" = "get_XMLText") ∧
      (IsAsciiWord "get_XmlText" ∧
        enumMemberSummary "get_XMLText" ≠ enumMemberSummary "get_XmlText" ∧
        methodSummary "get_XMLText" false ≠ methodSummary "get_XmlText" false) ∧
      "get_XMLText" ≠ "" ∧ ' ' ∉ "get_XMLText".toList ∧ Text.SinglySpaced "get_ x m l text" := by
  obtain ⟨hun, henum, hmethod, hspaced⟩ := phrase_keeps_name
  have h : IsAsciiWord "get_XMLText" := by decide
  have h' : IsAsciiWord "get_XmlText" := by decide
  have hne : "get_XMLText" ≠ "get_XmlText" := by decide
  have hn : "get_XMLText" ≠ "" := by decide
  have hs : ' ' ∉ "get_XMLText".toList := by decide
  exact ⟨⟨h, hun _ h⟩, ⟨h', fun he => hne (henum _ _ h h' he), fun he => hne (hmethod _ _ h h' he)⟩,
    hn, hs, hspaced "get_XMLText" true hn hs⟩

end Prose

end TripleSlash
