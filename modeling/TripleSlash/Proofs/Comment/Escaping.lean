import Mathlib.Data.List.Basic
import TripleSlash.Comment.Markup

namespace TripleSlash

namespace Text

/-- The characters that end a line. -/
def breaks : List Char := ['\n', '\r']

def BreakFree (s : String) : Prop := ∀ b ∈ breaks, b ∉ s.toList

instance : Decidable (BreakFree s) := List.decidableBAll (· ∉ s.toList) breaks

@[simp] theorem breakFree_append : BreakFree (s ++ t) ↔ BreakFree s ∧ BreakFree t := by
  simp only [BreakFree, String.toList_append, List.mem_append, not_or]
  exact forall₂_and

theorem replace_eq_flatMap (h : old.toList = [a]) (new : String) (cs : List Char) :
    replace old new cs = cs.flatMap fun c => if c = a then new.toList else [c] := by
  rw [replace, h]
  induction cs with
  | nil => rfl
  | cons c cs ih =>
    rw [replaceFrom, List.flatMap_cons]
    by_cases hc : c = a
    · simp [hc, ih]
    · simp [hc, Ne.symm hc, ih]

end Text

namespace Markup

/-- The characters that do not stand for themselves, with what is written for them. A quotation mark
matters only inside a quoted attribute. -/
def entities (quoted : Bool) : List (Char × List Char) :=
  [('&', "&amp;".toList), ('<', "&lt;".toList), ('>', "&gt;".toList)] ++
    if quoted then [('"', "&quot;".toList)] else []

def special (quoted : Bool) : List Char := (entities quoted).map (·.1)

def code (quoted : Bool) (c : Char) : List Char := ((entities quoted).lookup c).getD [c]

theorem code_cases (quoted : Bool) (c : Char) :
    (c, code quoted c) ∈ entities quoted ∨ code quoted c = [c] ∧ c ∉ special quoted := by
  unfold code
  cases hl : (entities quoted).lookup c with
  | none =>
    refine .inr ⟨rfl, fun hc => ?_⟩
    obtain ⟨e, he, rfl⟩ := List.mem_map.1 hc
    simpa using List.lookup_eq_none_iff.1 hl e he
  | some t =>
    obtain ⟨A, B, he, -⟩ := List.lookup_eq_some_iff.1 hl
    exact .inl (by simp [he])

theorem code_of_notMem (h : c ∉ special quoted) : code quoted c = [c] := by
  rcases code_cases quoted c with hc | ⟨hc, -⟩
  · exact (h (List.mem_map_of_mem hc)).elim
  · exact hc

theorem toList_escapeText (s : String) : (escapeText s).toList = s.toList.flatMap (code false) := by
  rw [escapeText, String.toList_ofList, Text.replace_eq_flatMap (a := '>') rfl,
    Text.replace_eq_flatMap (a := '<') rfl, Text.replace_eq_flatMap (a := '&') rfl,
    List.flatMap_assoc, List.flatMap_assoc]
  congr 1
  funext c
  by_cases hc : c ∈ special false
  · obtain ⟨e, he, rfl⟩ := List.mem_map.1 hc
    revert e
    decide
  · have ha : c ≠ '&' := fun h => hc (h ▸ by decide)
    have hl : c ≠ '<' := fun h => hc (h ▸ by decide)
    have hg : c ≠ '>' := fun h => hc (h ▸ by decide)
    rw [code_of_notMem hc, if_neg ha, List.flatMap_singleton, if_neg hl, List.flatMap_singleton,
      if_neg hg]

theorem toList_escapeAttribute (s : String) :
    (escapeAttribute s).toList = s.toList.flatMap (code true) := by
  rw [escapeAttribute, String.toList_ofList, Text.replace_eq_flatMap (a := '"') rfl,
    toList_escapeText, List.flatMap_assoc]
  congr 1
  funext c
  by_cases hc : c ∈ special true
  · obtain ⟨e, he, rfl⟩ := List.mem_map.1 hc
    revert e
    decide
  · have hf : c ∉ special false := fun h => hc (List.mem_append_left ['"'] h)
    have hq : c ≠ '"' := fun h => hc (h ▸ by decide)
    rw [code_of_notMem hc, code_of_notMem hf, List.flatMap_singleton, if_neg hq]

theorem code_ne_nil (quoted : Bool) (c : Char) : code quoted c ≠ [] := by
  have he : ∀ e ∈ entities quoted, e.2 ≠ [] := by cases quoted <;> decide
  rcases code_cases quoted c with hc | ⟨hc, -⟩
  · exact he _ hc
  · rw [hc]
    exact List.cons_ne_nil c []

theorem mem_code_iff_of_mem_breaks (hb : b ∈ Text.breaks) : b ∈ code quoted c ↔ b = c := by
  have he : ∀ e ∈ entities quoted, e.2.all (· ∉ Text.breaks) ∧ e.1 ∉ Text.breaks := by
    cases quoted <;> decide
  rcases code_cases quoted c with hc | ⟨hc, -⟩
  · obtain ⟨hm, hn⟩ := he _ hc
    have hbc : b ≠ c := fun h => hn (h ▸ hb)
    refine iff_of_false (fun h => ?_) hbc
    simpa [hb] using List.all_eq_true.1 hm b h
  · rw [hc]
    exact List.mem_singleton

theorem notMem_code (hx : x ∈ special quoted) (ha : x ≠ '&') (c : Char) : x ∉ code quoted c := by
  have he : ∀ e ∈ entities quoted, ∀ f ∈ entities quoted, e.1 ≠ '&' → e.1 ∉ f.2 := by
    cases quoted <;> decide
  rcases code_cases quoted c with hc | ⟨hc, hn⟩
  · obtain ⟨e, hm, rfl⟩ := List.mem_map.1 hx
    exact he e hm _ hc ha
  · rw [hc, List.mem_singleton]
    rintro rfl
    exact hn hx

/-- What is written for a character begins nothing that is written for another. -/
theorem eq_of_code_prefix_code (h : code quoted a <+: code quoted b) : a = b := by
  have hp : ∀ e ∈ entities quoted, ∀ f ∈ entities quoted, e.2 <+: f.2 → e.1 = f.1 := by
    cases quoted <;> decide
  have hs : ∀ e ∈ entities quoted, e.2.head? = some '&' := by cases quoted <;> decide
  have ha : '&' ∈ special quoted := by cases quoted <;> decide
  have hh : (code quoted b).head? = (code quoted a).head? := by
    obtain ⟨t, ht⟩ := h
    rw [← ht, List.head?_append_of_ne_nil _ (code_ne_nil quoted a)]
  rcases code_cases quoted a with hea | ⟨hea, hna⟩ <;>
    rcases code_cases quoted b with heb | ⟨heb, hnb⟩
  · exact hp _ hea _ heb h
  · rw [heb, hs _ hea] at hh
    cases hh
    exact (hnb ha).elim
  · rw [hea, hs _ heb] at hh
    cases hh
    exact (hna ha).elim
  · rw [hea, heb] at hh
    cases hh
    rfl

theorem code_append_inj (h : code quoted a ++ r = code quoted b ++ s) : a = b ∧ r = s := by
  have ha : code quoted a <+: code quoted a ++ r := List.prefix_append _ _
  have hb : code quoted b <+: code quoted a ++ r := h ▸ List.prefix_append _ _
  have hab : a = b := by
    rcases List.prefix_or_prefix_of_prefix ha hb with hp | hp
    · exact eq_of_code_prefix_code hp
    · exact (eq_of_code_prefix_code hp).symm
  rw [hab] at h
  exact ⟨hab, List.append_cancel_left h⟩

theorem flatMap_code_inj {cs ds : List Char}
    (h : cs.flatMap (code quoted) = ds.flatMap (code quoted)) : cs = ds := by
  induction cs generalizing ds with
  | nil =>
    cases ds with
    | nil => rfl
    | cons d ds => exact (code_ne_nil quoted d (List.append_eq_nil_iff.1 h.symm).1).elim
  | cons c cs ih =>
    cases ds with
    | nil => exact (code_ne_nil quoted c (List.append_eq_nil_iff.1 h).1).elim
    | cons d ds =>
      rw [List.flatMap_cons, List.flatMap_cons] at h
      obtain ⟨rfl, ht⟩ := code_append_inj h
      rw [ih ht]

theorem escapeAttribute_eq_self (h : ∀ c ∈ special true, c ∉ s.toList) : escapeAttribute s = s := by
  have hc : s.toList.flatMap (code true) = s.toList.flatMap ([·]) :=
    List.flatMap_congr fun c hc => code_of_notMem fun hs => h c hs hc
  rw [← String.toList_inj, toList_escapeAttribute, hc, List.flatMap_singleton']

theorem escapeText_inj (h : escapeText s = escapeText t) : s = t := by
  rw [← String.toList_inj, toList_escapeText, toList_escapeText] at h
  exact String.toList_inj.1 (flatMap_code_inj h)

theorem escapeAttribute_inj (h : escapeAttribute s = escapeAttribute t) : s = t := by
  rw [← String.toList_inj, toList_escapeAttribute, toList_escapeAttribute] at h
  exact String.toList_inj.1 (flatMap_code_inj h)

theorem notMem_flatMap_code (hx : x ∈ special quoted) (ha : x ≠ '&') (cs : List Char) :
    x ∉ cs.flatMap (code quoted) := by
  rw [List.mem_flatMap]
  rintro ⟨c, -, hc⟩
  exact notMem_code hx ha c hc

theorem notMem_escapeText (hx : x ∈ special false) (ha : x ≠ '&') (s : String) :
    x ∉ (escapeText s).toList := by
  rw [toList_escapeText]
  exact notMem_flatMap_code hx ha s.toList

theorem notMem_escapeAttribute (hx : x ∈ special true) (ha : x ≠ '&') (s : String) :
    x ∉ (escapeAttribute s).toList := by
  rw [toList_escapeAttribute]
  exact notMem_flatMap_code hx ha s.toList

@[simp] theorem breakFree_escapeText : Text.BreakFree (escapeText s) ↔ Text.BreakFree s := by
  refine forall₂_congr fun b hb => not_congr ?_
  simp [toList_escapeText, mem_code_iff_of_mem_breaks hb]

@[simp] theorem breakFree_escapeAttribute :
    Text.BreakFree (escapeAttribute s) ↔ Text.BreakFree s := by
  refine forall₂_congr fun b hb => not_congr ?_
  simp [toList_escapeAttribute, mem_code_iff_of_mem_breaks hb]

theorem breakFree_attr (hk : Text.BreakFree key) :
    Text.BreakFree (attr key value) ↔ Text.BreakFree value := by
  simp +decide [attr, hk]

theorem breakFree_element (ht : Text.BreakFree tag) :
    Text.BreakFree (element tag attributes content) ↔
      Text.BreakFree attributes ∧ Text.BreakFree content := by
  simp +decide [element, ht]

end Markup

namespace Inline

def string : Inline → String
  | text s | see s => s

@[simp] theorem breakFree_markup (i : Inline) :
    Text.BreakFree i.markup ↔ Text.BreakFree i.string := by
  cases i with
  | text s => exact Markup.breakFree_escapeText
  | see s =>
    simp +decide [markup, string, Markup.breakFree_attr]

@[simp] theorem breakFree_markups (content : List Inline) :
    Text.BreakFree (markups content) ↔ ∀ i ∈ content, Text.BreakFree i.string := by
  unfold markups
  induction content with
  | nil => simp +decide
  | cons i content ih => simp [ih]

end Inline

namespace Node

def content : Node → List Inline
  | summary content | typeParam _ content | param _ content | returns content
  | exception _ content => content
  | newLine | other _ => []

/-- What is written of a node beside its content: a name, a reference, or text that is kept as it
is. -/
def label? : Node → Option String
  | typeParam name _ | param name _ => name
  | exception cref _ => some cref
  | other raw => some raw
  | newLine | summary _ | returns _ => none

def strings (n : Node) : List String := n.label?.toList ++ n.content.map Inline.string

end Node

/-- All strings that are written into the text of a comment. -/
def Comment.strings (c : Comment) : List String := c.flatMap Node.strings

end TripleSlash
