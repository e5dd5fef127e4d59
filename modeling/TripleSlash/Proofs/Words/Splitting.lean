import Mathlib.Data.List.SplitBy
import TripleSlash.Proofs.Unicode.CaseForms
import TripleSlash.Words.Inflection

namespace TripleSlash.Words

open Unicode

theorem split_of_ne_empty (hn : name ≠ "") :
    split name = (name.toList.splitBy fun _ c => !isUppercase c).map String.ofList := by
  rw [split, if_neg (by simpa using hn)]

theorem flatMap_toList_split (name : String) :
    (split name).flatMap String.toList = name.toList := by
  by_cases hn : name = ""
  · subst hn
    rfl
  · rw [split_of_ne_empty hn, List.flatMap_map]
    simp [List.flatMap_def]

theorem mem_toList_of_mem_split (hw : w ∈ split name) (hc : c ∈ w.toList) : c ∈ name.toList := by
  rw [← flatMap_toList_split name]
  exact List.mem_flatMap.2 ⟨w, hw, hc⟩

theorem ne_empty_of_mem_split (hn : name ≠ "") (h : w ∈ split name) : w ≠ "" := by
  rw [split_of_ne_empty hn] at h
  obtain ⟨cs, hcs, rfl⟩ := List.mem_map.1 h
  have hne : cs ≠ [] := fun he => List.nil_notMem_splitBy _ _ (he ▸ hcs)
  simpa using hne

theorem exists_split_eq_cons (name : String) : ∃ w ws, split name = w :: ws := by
  apply List.exists_cons_of_ne_nil
  intro h
  by_cases hn : name = ""
  · simp [split, hn] at h
  · have hf := flatMap_toList_split name
    rw [h] at hf
    exact hn (by simpa using hf.symm)

theorem eq_of_split_eq_singleton (h : split name = [w]) : w = name := by
  have hf := flatMap_toList_split name
  rw [h] at hf
  exact String.toList_inj.1 (by simpa using hf)

theorem split_of_length_eq_one (h : name.length = 1) : split name = [name] := by
  obtain ⟨c, hc⟩ := List.length_eq_one_iff.1 (String.length_toList.trans h)
  have hn : name ≠ "" := by
    rintro rfl
    cases hc
  have hs : split name = [String.ofList name.toList] := by rw [split_of_ne_empty hn, hc]; rfl
  rwa [String.ofList_toList] at hs

/-- Whether a text has a character of the name, in one case or another. -/
def Shows (name text : String) : Prop :=
  ∃ c ∈ name.toList, ∃ x ∈ text.toList, x ∈ caseForms c

instance (name text : String) : Decidable (Shows name text) :=
  decidable_of_iff (name.toList.any fun c => text.toList.any (caseForms c).contains)
    (by simp [Shows])

theorem Shows.of_mem_split (h : Shows w text) (hw : w ∈ split name) : Shows name text := by
  obtain ⟨c, hc, hx⟩ := h
  exact ⟨c, mem_toList_of_mem_split hw hc, hx⟩

theorem toList_join_cons_cons (v w : String) (ws : List String) :
    (join (v :: w :: ws)).toList = v.toList ++ ' ' :: (join (w :: ws)).toList := by
  simp [join]

theorem mem_toList_join (hw : w ∈ words) (hx : x ∈ w.toList) : x ∈ (join words).toList := by
  induction words with
  | nil => cases hw
  | cons v words ih =>
    cases words with
    | nil =>
      rw [← List.mem_singleton.1 hw]
      simpa [join] using hx
    | cons u us =>
      rw [toList_join_cons_cons, List.mem_append, List.mem_cons]
      rcases List.mem_cons.1 hw with rfl | hw
      · exact .inl hx
      · exact .inr (.inr (ih hw))

theorem Shows.join (h : Shows name w) (hw : w ∈ words) : Shows name (join words) := by
  obtain ⟨c, hc, x, hx, hxc⟩ := h
  exact ⟨c, hc, x, mem_toList_join hw hx, hxc⟩

theorem exists_toList_eq_cons (hw : w ≠ "") : ∃ c cs, w.toList = c :: cs :=
  List.exists_cons_of_ne_nil (by simpa using hw)

theorem shows_self (hw : w ≠ "") : Shows w w := by
  obtain ⟨c, cs, hc⟩ := exists_toList_eq_cons hw
  have hm : c ∈ w.toList := hc ▸ List.mem_cons_self
  exact ⟨c, hm, c, hm, mem_caseForms_self c⟩

theorem shows_lower (hw : w ≠ "") : Shows w (lower w) := by
  obtain ⟨c, cs, hc⟩ := exists_toList_eq_cons hw
  obtain ⟨x, xs, hl, hx⟩ := exists_lowerFrom_eq_cons [] c cs
  refine ⟨c, hc ▸ List.mem_cons_self, x, ?_, mem_caseForms_of_mem_lowerForms hx⟩
  rw [lower, String.toList_ofList, lowercase, hc, hl]
  exact List.mem_cons_self

theorem shows_upper (hw : w ≠ "") : Shows w (upper w) := by
  obtain ⟨c, cs, hc⟩ := exists_toList_eq_cons hw
  obtain ⟨x, xs, hx⟩ := exists_upperChar_eq_cons c
  have hm : x ∈ upperChar c := hx ▸ List.mem_cons_self
  refine ⟨c, hc ▸ List.mem_cons_self, x, ?_, mem_caseForms_of_mem_upperChar hm⟩
  rw [upper, String.toList_ofList, uppercase, hc, List.flatMap_cons, List.mem_append]
  exact .inl hm

theorem shows_lower_of_mem_split (hn : name ≠ "") (hw : w ∈ split name) : Shows name (lower w) :=
  (shows_lower (ne_empty_of_mem_split hn hw)).of_mem_split hw

/-- A word of the name is left, unless a single character is all there is. -/
theorem exists_shows_mem_recase (hn : name ≠ "") (hd : dropInitial = true → name.length ≠ 1)
    (lowerFirst : Bool) : ∃ w ∈ recase lowerFirst dropInitial (split name), Shows name w := by
  obtain ⟨w, ws, hs⟩ := exists_split_eq_cons name
  have hw : w ∈ split name := hs ▸ List.mem_cons_self
  rw [hs, recase]
  split
  case isTrue h =>
    simp only [Bool.and_eq_true, beq_iff_eq] at h
    cases ws with
    | nil =>
      rw [eq_of_split_eq_singleton hs] at h
      exact (hd h.1 h.2).elim
    | cons v vs =>
      have hv : v ∈ split name := by simp [hs]
      exact ⟨lower v, by simp, shows_lower_of_mem_split hn hv⟩
  case isFalse =>
    refine ⟨_, List.mem_cons_self, ?_⟩
    split
    · exact shows_lower_of_mem_split hn hw
    · exact (shows_self (ne_empty_of_mem_split hn hw)).of_mem_split hw

theorem shows_recase (hn : name ≠ "") (hd : dropInitial = true → name.length ≠ 1)
    (lowerFirst : Bool) : Shows name (join (recase lowerFirst dropInitial (split name))) := by
  obtain ⟨w, hw, hs⟩ := exists_shows_mem_recase hn hd lowerFirst
  exact hs.join hw

theorem shows_phrase (hn : name ≠ "") (lowerFirst : Bool) : Shows name (phrase lowerFirst name) :=
  shows_recase hn (by simp) lowerFirst

end TripleSlash.Words
