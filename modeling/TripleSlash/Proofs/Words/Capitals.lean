import TripleSlash.Proofs.Words.Splitting

namespace TripleSlash.Words

open Unicode

theorem isChain_iff_forall_mem_tail {p : α → Prop} {l : List α} :
    (l.IsChain fun _ b => p b) ↔ ∀ b ∈ l.tail, p b := by
  induction l with
  | nil => simp
  | cons a l ih =>
    cases l with
    | nil => simp
    | cons b l =>
      rw [List.isChain_cons_cons, ih, List.tail_cons, List.tail_cons, List.forall_mem_cons]

theorem splitBy_isUppercase_eq_iff {cs : List Char} {pieces : List (List Char)} :
    cs.splitBy (fun _ c => !isUppercase c) = pieces ↔
      cs = pieces.flatten ∧ [] ∉ pieces ∧ (∀ p ∈ pieces, ∀ c ∈ p.tail, isUppercase c = false) ∧
        ∀ p ∈ pieces.tail, p.head?.any isUppercase = true := by
  rw [List.splitBy_eq_iff]
  refine and_congr_right fun _ => and_congr_right fun hne => and_congr ?_ ?_
  · simp [isChain_iff_forall_mem_tail]
  · rw [← isChain_iff_forall_mem_tail]
    refine List.IsChain.iff_of_mem_imp fun a b ha hb => ?_
    obtain ⟨x, xs, rfl⟩ := List.exists_cons_of_ne_nil (ne_of_mem_of_not_mem ha hne)
    obtain ⟨y, ys, rfl⟩ := List.exists_cons_of_ne_nil (ne_of_mem_of_not_mem hb hne)
    simp

/-- Whether the words make up the name, and capitals stand at the start of every word but the first
and elsewhere only at the start of the first. -/
structure CutsAtCapitals (words : List String) (name : String) : Prop where
  ne_nil : words ≠ []
  join_eq : String.join words = name
  starts : ∀ w ∈ words.tail, w.toList.head?.any isUppercase = true
  inner : ∀ w ∈ words, ∀ c ∈ w.toList.tail, isUppercase c = false
  ne_empty : name ≠ "" → "" ∉ words

theorem eq_split_iff_splitBy (hn : name ≠ "") :
    words = split name ↔
      name.toList.splitBy (fun _ c => !isUppercase c) = words.map String.toList := by
  rw [split_of_ne_empty hn]
  constructor
  · rintro rfl
    simp [Function.comp_def]
  · intro h
    simp [h, Function.comp_def]

theorem cutsAtCapitals_iff_of_ne_empty (hn : name ≠ "") :
    CutsAtCapitals words name ↔ words = split name := by
  have hj : name.toList = (words.map String.toList).flatten ↔ String.join words = name := by
    rw [← List.flatMap_def, ← String.toList_join, String.toList_inj, eq_comm]
  rw [eq_split_iff_splitBy hn, splitBy_isUppercase_eq_iff, hj, ← List.map_tail,
    List.forall_mem_map, List.forall_mem_map]
  constructor
  · intro h
    refine ⟨h.join_eq, ?_, h.inner, h.starts⟩
    simpa using h.ne_empty hn
  · rintro ⟨hj, he, hi, hs⟩
    refine ⟨?_, hj, hs, hi, fun _ => by simpa using he⟩
    rintro rfl
    exact hn hj.symm

theorem cutsAtCapitals_empty_iff : CutsAtCapitals words "" ↔ words = [""] := by
  constructor
  · intro h
    obtain ⟨w, ws, rfl⟩ := List.exists_cons_of_ne_nil h.ne_nil
    have hj := h.join_eq
    cases ws with
    | nil => simpa using hj
    | cons v vs =>
      have hv := h.starts v List.mem_cons_self
      have he : v = "" := by
        simp only [String.join_cons, String.append_eq_empty_iff] at hj
        exact hj.2.1
      rw [he] at hv
      cases hv
  · rintro rfl
    constructor <;> simp

/-- A name has one cut at its capitals. -/
theorem cutsAtCapitals_iff : CutsAtCapitals words name ↔ words = split name := by
  by_cases hn : name = ""
  · subst hn
    exact cutsAtCapitals_empty_iff
  · exact cutsAtCapitals_iff_of_ne_empty hn

theorem cutsAtCapitals_split (name : String) : CutsAtCapitals (split name) name :=
  cutsAtCapitals_iff.2 rfl

theorem CutsAtCapitals.head?_eq (h : CutsAtCapitals (w :: ws) name) (hn : name ≠ "") :
    name.toList.head? = w.toList.head? := by
  have hw : w.toList ≠ [] := fun he => h.ne_empty hn (by simp [String.toList_eq_nil_iff.1 he])
  rw [← h.join_eq, String.join_cons, String.toList_append, List.head?_append_of_ne_nil _ hw]

theorem CutsAtCapitals.append (h : CutsAtCapitals words name) (hn : name ≠ "")
    (h' : CutsAtCapitals words' name') (hu : name'.toList.head?.any isUppercase = true) :
    CutsAtCapitals (words ++ words') (name ++ name') := by
  have hn' : name' ≠ "" := by
    rintro rfl
    cases hu
  obtain ⟨v, vs, rfl⟩ := List.exists_cons_of_ne_nil h'.ne_nil
  constructor
  case ne_nil => exact List.append_ne_nil_of_left_ne_nil h.ne_nil _
  case join_eq => rw [String.join_append, h.join_eq, h'.join_eq]
  case starts =>
    rw [List.tail_append_of_ne_nil h.ne_nil, List.forall_mem_append, List.forall_mem_cons]
    exact ⟨h.starts, h'.head?_eq hn' ▸ hu, h'.starts⟩
  case inner => exact List.forall_mem_append.2 ⟨h.inner, h'.inner⟩
  case ne_empty =>
    rw [List.mem_append, not_or]
    exact fun _ => ⟨h.ne_empty hn, h'.ne_empty hn'⟩

/-- The words of a name are the only cut of it at its capitals, so two names that meet at a capital
have the words of both. -/
theorem split_unique (name : String) :
    (∀ words, CutsAtCapitals words name ↔ words = split name) ∧
      ∀ more, name ≠ "" → more.toList.head?.any isUppercase = true →
        split (name ++ more) = split name ++ split more := by
  refine ⟨fun words => cutsAtCapitals_iff, fun more hn hu => ?_⟩
  have hc := (cutsAtCapitals_split name).append hn (cutsAtCapitals_split more) hu
  exact (cutsAtCapitals_iff.1 hc).symm

theorem split_unique_xml :
    "get_X" ≠ "" ∧ "MLParser".toList.head?.any isUppercase = true ∧
      split "get_XMLParser" = ["get_", "X", "M", "L", "Parser"] := by
  have hn : "get_X" ≠ "" := by decide
  have hu : "MLParser".toList.head?.any isUppercase = true := by decide
  refine ⟨hn, hu, ?_⟩
  exact (split_unique "get_X").2 "MLParser" hn hu

end TripleSlash.Words
