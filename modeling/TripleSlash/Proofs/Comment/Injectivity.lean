import Mathlib.Data.List.Chain
import TripleSlash.Proofs.Comment.Escaping
import TripleSlash.Proofs.Comment.Rendering

namespace TripleSlash

namespace Text

theorem takeWhile_append_of_stop {p : Char → Bool} {A r : List Char}
    (hA : ∀ x ∈ A, p x = false) (hr : r.head?.any p = true) :
    (A ++ r).takeWhile (fun x => !p x) = A := by
  rw [List.takeWhile_append_of_pos (by simpa using hA)]
  cases r with
  | nil => cases hr
  | cons c r =>
    have hc : p c = true := hr
    simp [hc]

theorem append_inj_of_stop {p : Char → Bool} {A B r s : List Char} (h : A ++ r = B ++ s)
    (hA : ∀ x ∈ A, p x = false) (hB : ∀ x ∈ B, p x = false) (hr : r.head?.any p = true)
    (hs : s.head?.any p = true) : A = B ∧ r = s := by
  have hAB : A = B := by
    rw [← takeWhile_append_of_stop hA hr, h, takeWhile_append_of_stop hB hs]
  rw [hAB] at h
  exact ⟨hAB, List.append_cancel_left h⟩

end Text

open Text Markup

namespace Markup

theorem attr_append_inj (h : (attr key a).toList ++ r = (attr key b).toList ++ s) :
    a = b ∧ r = s := by
  have hq (v : String) : ∀ x ∈ (escapeAttribute v).toList, (x == '"') = false := by
    intro x hx
    rw [beq_eq_false_iff_ne]
    rintro rfl
    exact notMem_escapeAttribute (by decide) (by decide) v hx
  simp only [attr, String.toList_append, List.append_assoc] at h
  have h := List.append_cancel_left (List.append_cancel_left (List.append_cancel_left h))
  obtain ⟨hab, hrs⟩ := append_inj_of_stop h (hq a) (hq b) rfl rfl
  exact ⟨escapeAttribute_inj (String.toList_inj.1 hab), List.append_cancel_left hrs⟩

def labelText (key : String) : Option String → String
  | none => ""
  | some label => attr key label

theorem head?_labelText_append (key : String) (label : Option String) (r : List Char) :
    ((labelText key label).toList ++ (">".toList ++ r)).head? =
      some (if label.isSome then ' ' else '>') := by
  cases label with
  | none => rfl
  | some label =>
    simp only [labelText, attr, String.toList_append, List.append_assoc]
    rfl

theorem labelText_append_inj (h : (labelText key a).toList ++ (">".toList ++ r) =
    (labelText key b).toList ++ (">".toList ++ s)) : a = b ∧ r = s := by
  have hh := congrArg List.head? h
  rw [head?_labelText_append, head?_labelText_append] at hh
  cases a with
  | none =>
    cases b with
    | none => exact ⟨rfl, List.append_cancel_left (List.append_cancel_left h)⟩
    | some b => cases hh
  | some a =>
    cases b with
    | none => cases hh
    | some b =>
      obtain ⟨rfl, hrs⟩ := attr_append_inj h
      exact ⟨rfl, List.append_cancel_left hrs⟩

end Markup

namespace Inline

def isText : Inline → Bool
  | text _ => true
  | see _ => false

/-- No piece of text is empty, and none follows another without a reference between them. -/
structure Compact (content : List Inline) : Prop where
  no_empty : text "" ∉ content
  no_adjacent : content.IsChain fun i j => ¬(i.isText = true ∧ j.isText = true)

theorem compact_iff {content : List Inline} : Compact content ↔
    text "" ∉ content ∧ content.IsChain fun i j => ¬(i.isText = true ∧ j.isText = true) :=
  ⟨fun h => ⟨h.no_empty, h.no_adjacent⟩, fun h => ⟨h.1, h.2⟩⟩

instance (content : List Inline) : Decidable (Compact content) :=
  decidable_of_iff _ compact_iff.symm

theorem Compact.tail (h : Compact (i :: content)) : Compact content where
  no_empty := fun hm => h.no_empty (List.mem_cons_of_mem i hm)
  no_adjacent := h.no_adjacent.tail

theorem Compact.head?_ne_text (h : Compact (i :: content)) (hi : i.isText = true) :
    content.head?.map isText ≠ some true := by
  cases content with
  | nil => exact (Option.some_ne_none true).symm
  | cons j content =>
    intro hj
    exact (List.isChain_cons_cons.1 h.no_adjacent).1 ⟨hi, Option.some.inj hj⟩

def stops (x : Char) : Bool := x == '<' || breaks.contains x

/-- What goes on with a piece of text, with a reference, or with neither. -/
inductive Opens : List Char → Option Bool → Prop
  | text : stops x = false → Opens (x :: r) (some true)
  | see : Opens ('<' :: 's' :: r) (some false)
  | endTag : Opens ('<' :: '/' :: r) none
  | lineBreak : x ∈ breaks → Opens (x :: r) none

theorem Opens.unique (h : Opens cs k) (h' : Opens cs k') : k = k' := by
  cases h with
  | text hx =>
    cases h' with
    | text => rfl
    | see | endTag => cases hx
    | lineBreak hb => simp [stops, hb] at hx
  | see =>
    cases h' with
    | text hx => cases hx
    | see => rfl
    | lineBreak hb => revert hb; decide
  | endTag =>
    cases h' with
    | text hx => cases hx
    | endTag | lineBreak => rfl
  | lineBreak hb =>
    cases h' with
    | text hx => simp [stops, hb] at hx
    | see => revert hb; decide
    | endTag | lineBreak => rfl

theorem Opens.stops_head? (h : Opens cs k) (hk : k ≠ some true) : cs.head?.any stops = true := by
  cases h with
  | text => exact (hk rfl).elim
  | see | endTag => rfl
  | lineBreak hb => simp [stops, hb]

theorem stops_eq_false_of_mem_escapeText (ht : BreakFree t) (hx : x ∈ (escapeText t).toList) :
    stops x = false := by
  have hl : x ≠ '<' := by
    rintro rfl
    exact notMem_escapeText (by decide) (by decide) t hx
  have hb : x ∉ breaks := fun hb => breakFree_escapeText.2 ht x hb hx
  simp [stops, hl, hb]

theorem text_append_inj (ht : BreakFree t) (hu : BreakFree u) (hr : r.head?.any stops = true)
    (hs : s.head?.any stops = true)
    (h : (markup (text t)).toList ++ r = (markup (text u)).toList ++ s) : t = u ∧ r = s := by
  simp only [markup] at h
  obtain ⟨htu, hrs⟩ := append_inj_of_stop h (fun x hx => stops_eq_false_of_mem_escapeText ht hx)
    (fun x hx => stops_eq_false_of_mem_escapeText hu hx) hr hs
  exact ⟨escapeText_inj (String.toList_inj.1 htu), hrs⟩

theorem see_append_inj (h : (markup (see a)).toList ++ r = (markup (see b)).toList ++ s) :
    a = b ∧ r = s := by
  simp only [markup, String.toList_append, List.append_assoc] at h
  obtain ⟨hab, hrs⟩ := attr_append_inj (List.append_cancel_left h)
  exact ⟨hab, List.append_cancel_left hrs⟩

theorem markup_append_inj {i j : Inline} {r s : List Char} (hk : i.isText = j.isText)
    (hi : BreakFree i.string) (hj : BreakFree j.string)
    (hr : i.isText = true → r.head?.any stops = true)
    (hs : j.isText = true → s.head?.any stops = true)
    (h : i.markup.toList ++ r = j.markup.toList ++ s) : i = j ∧ r = s := by
  cases i with
  | text t =>
    cases j with
    | text u =>
      obtain ⟨rfl, hrs⟩ := text_append_inj hi hj (hr rfl) (hs rfl) h
      exact ⟨rfl, hrs⟩
    | see => cases hk
  | see a =>
    cases j with
    | text => cases hk
    | see b =>
      obtain ⟨rfl, hrs⟩ := see_append_inj h
      exact ⟨rfl, hrs⟩

theorem toList_markups_cons (i : Inline) (content : List Inline) :
    (markups (i :: content)).toList = i.markup.toList ++ (markups content).toList := by
  simp [markups]

theorem opens_markups (hc : Compact content) (hb : ∀ i ∈ content, BreakFree i.string)
    (hr : Opens r none) : Opens ((markups content).toList ++ r) (content.head?.map isText) := by
  cases content with
  | nil => exact hr
  | cons i content =>
    rw [toList_markups_cons, List.append_assoc]
    cases i with
    | text t =>
      have ht : BreakFree t := hb _ List.mem_cons_self
      rw [markup]
      cases he : (escapeText t).toList with
      | nil =>
        have htn : escapeText t = escapeText "" := String.toList_inj.1 he
        rw [escapeText_inj htn] at hc
        exact (hc.no_empty List.mem_cons_self).elim
      | cons x cs =>
        have hx : x ∈ (escapeText t).toList := by rw [he]; exact List.mem_cons_self
        exact .text (stops_eq_false_of_mem_escapeText ht hx)
    | see s =>
      simp only [markup, String.toList_append, List.append_assoc]
      exact .see

theorem markups_append_inj (hc : Compact content) (hb : ∀ i ∈ content, BreakFree i.string)
    (hc' : Compact content') (hb' : ∀ i ∈ content', BreakFree i.string) (hr : Opens r none)
    (hs : Opens s none) (h : (markups content).toList ++ r = (markups content').toList ++ s) :
    content = content' ∧ r = s := by
  induction content generalizing content' with
  | nil =>
    have ho := opens_markups hc' hb' hs
    rw [← h] at ho
    have hk := hr.unique ho
    cases content' with
    | nil => exact ⟨rfl, h⟩
    | cons j content' => cases hk
  | cons i content ih =>
    have ho := opens_markups hc hb hr
    rw [h] at ho
    have hk := ho.unique (opens_markups hc' hb' hs)
    cases content' with
    | nil => cases hk
    | cons j content' =>
      rw [List.forall_mem_cons] at hb hb'
      have hr' := opens_markups hc.tail hb.2 hr
      have hs' := opens_markups hc'.tail hb'.2 hs
      rw [toList_markups_cons, toList_markups_cons, List.append_assoc, List.append_assoc] at h
      obtain ⟨rfl, hrest⟩ := markup_append_inj (Option.some.inj hk) hb.1 hb'.1
        (fun hi => hr'.stops_head? (hc.head?_ne_text hi))
        (fun hj => hs'.stops_head? (hc'.head?_ne_text hj)) h
      obtain ⟨rfl, hrs⟩ := ih hc.tail hb.2 hc'.tail hb'.2 hrest
      exact ⟨rfl, hrs⟩

end Inline

namespace Node

namespace Kind

/-- Whether nodes of the kind are written between tags. -/
def isElement : Kind → Bool
  | newLine | other => false
  | _ => true

def tagName : Kind → String
  | summary => "summary"
  | typeParam => "typeparam"
  | param => "param"
  | returns => "returns"
  | exception => "exception"
  | newLine | other => ""

def labelKey : Kind → String
  | exception => "cref"
  | _ => "name"

/-- What separates the content from the tags. -/
def padding (br : String) : Kind → String
  | summary => br
  | _ => ""

theorem tagName_inj (hk : isElement k = true) (hl : isElement l = true)
    (h : k.tagName = l.tagName) : k = l := by
  revert hk hl h
  cases k <;> cases l <;> decide

/-- What a tag name ends before. -/
def endsTagName (x : Char) : Bool := x == ' ' || x == '>'

theorem endsTagName_eq_false (k : Kind) : ∀ x ∈ k.tagName.toList, endsTagName x = false := by
  have hk : k.tagName.toList.any endsTagName = false := by cases k <;> rfl
  simpa using hk

end Kind

section

variable {n m : Node} {r s : List Char} {br : String}

theorem markup_eq_element (hn : n.kind.isElement = true) (br : String) :
    n.markup br = element n.kind.tagName (labelText n.kind.labelKey n.label?)
      (n.kind.padding br ++ Inline.markups n.content ++ n.kind.padding br) := by
  cases n with
  | newLine | other => cases hn
  | summary => rfl
  | typeParam name | param name =>
    cases name <;>
      simp [markup, labelText, kind, label?, content, Kind.tagName, Kind.labelKey, Kind.padding]
  | returns | exception =>
    simp [markup, labelText, kind, label?, content, Kind.tagName, Kind.labelKey, Kind.padding]

/-- The node of a kind that has the label and the content. -/
def ofParts (label : Option String) (content : List Inline) : Kind → Node
  | .newLine => newLine
  | .summary => summary content
  | .typeParam => typeParam label content
  | .param => param label content
  | .returns => returns content
  | .exception => exception (label.getD "") content
  | .other => other (label.getD "")

theorem ofParts_kind (n : Node) : ofParts n.label? n.content n.kind = n := by
  cases n <;> rfl

theorem opens_padding (k : Kind) (hb : b ∈ breaks) (hbr : br.toList = b :: t) (r : List Char) :
    Inline.Opens ((k.padding br).toList ++ ("</".toList ++ r)) none := by
  cases k with
  | summary =>
    rw [Kind.padding, hbr]
    exact .lineBreak hb
  | _ => exact .endTag

theorem endsTagName_labelText (key : String) (label : Option String) (r : List Char) :
    ((labelText key label).toList ++ (">".toList ++ r)).head?.any Kind.endsTagName = true := by
  rw [head?_labelText_append]
  cases label <;> rfl

theorem head?_markup_append (hn : n.kind.isElement = true) (br : String) (r : List Char) :
    ((n.markup br).toList ++ r).head? = some '<' := by
  rw [markup_eq_element hn]
  simp only [element, String.toList_append, List.append_assoc]
  rfl

theorem markup_append_inj (hn : n.kind.isElement = true) (hm : m.kind.isElement = true)
    (hnc : Inline.Compact n.content) (hmc : Inline.Compact m.content)
    (hns : ∀ i ∈ n.content, BreakFree i.string) (hms : ∀ i ∈ m.content, BreakFree i.string)
    (hb : b ∈ breaks) (hbr : br.toList = b :: t)
    (h : (n.markup br).toList ++ r = (m.markup br).toList ++ s) : n = m ∧ r = s := by
  rw [markup_eq_element hn, markup_eq_element hm] at h
  simp only [element, String.toList_append, List.append_assoc] at h
  have htag := List.append_cancel_left h
  obtain ⟨ht, hlabel⟩ := append_inj_of_stop htag (Kind.endsTagName_eq_false n.kind)
    (Kind.endsTagName_eq_false m.kind) (endsTagName_labelText _ _ _) (endsTagName_labelText _ _ _)
  have hk : n.kind = m.kind := Kind.tagName_inj hn hm (String.toList_inj.1 ht)
  rw [hk] at hlabel
  obtain ⟨hl, hcontent⟩ := labelText_append_inj hlabel
  obtain ⟨hc, hclose⟩ := Inline.markups_append_inj hnc hns hmc hms (opens_padding m.kind hb hbr _)
    (opens_padding m.kind hb hbr _) (List.append_cancel_left hcontent)
  have hnm : n = m := by rw [← ofParts_kind n, ← ofParts_kind m, hk, hl, hc]
  have hend := List.append_cancel_left (List.append_cancel_left hclose)
  exact ⟨hnm, List.append_cancel_left (List.append_cancel_left hend)⟩

theorem eq_newLine_or_isElement (hn : n.kind ≠ .other) : n = newLine ∨ n.kind.isElement = true := by
  cases n with
  | newLine => exact .inl rfl
  | other => exact (hn rfl).elim
  | _ => exact .inr rfl

end

end Node

namespace Comment

/-- Nothing is kept as it is, no string breaks a line, and no piece of text is empty or could be one
with the next. -/
structure Readable (c : Comment) : Prop where
  no_other : ∀ n ∈ c, n.kind ≠ .other
  breakFree : ∀ s ∈ c.strings, BreakFree s
  compact : ∀ n ∈ c, Inline.Compact n.content

theorem readable_iff {c : Comment} : Readable c ↔
    (∀ n ∈ c, n.kind ≠ .other) ∧ (∀ s ∈ c.strings, BreakFree s) ∧
      ∀ n ∈ c, Inline.Compact n.content :=
  ⟨fun h => ⟨h.no_other, h.breakFree, h.compact⟩, fun h => ⟨h.1, h.2.1, h.2.2⟩⟩

instance (c : Comment) : Decidable c.Readable := decidable_of_iff _ readable_iff.symm

section

variable {c d : Comment} {n m : Node} {e : LineEnding} {start : String}

theorem Readable.tail (h : Readable (n :: c)) : Readable c where
  no_other := fun m hm => h.no_other m (List.mem_cons_of_mem n hm)
  breakFree := fun s hs => h.breakFree s (List.mem_append_right n.strings hs)
  compact := fun m hm => h.compact m (List.mem_cons_of_mem n hm)

theorem Readable.breakFree_content (h : Readable (n :: c)) :
    ∀ i ∈ n.content, BreakFree i.string := by
  intro i hi
  apply h.breakFree
  exact List.mem_append_left _ (List.mem_append_right _ (List.mem_map_of_mem hi))

theorem exists_break (e : LineEnding) : ∃ b ∈ breaks, ∃ t, e.text.toList = b :: t := by
  cases e with
  | lf => exact ⟨'\n', by decide, [], rfl⟩
  | crlf => exact ⟨'\r', by decide, ['\n'], rfl⟩

/-- What is written for the nodes of a comment, up to the end of the last line. -/
def written (e : LineEnding) (start : String) (c : Comment) : List Char :=
  (String.join (c.map (Node.markup (e.text ++ start)))).toList ++ e.text.toList

theorem written_nil (e : LineEnding) (start : String) : written e start [] = e.text.toList := by
  simp [written]

theorem written_cons (e : LineEnding) (start : String) (n : Node) (c : Comment) :
    written e start (n :: c) = (n.markup (e.text ++ start)).toList ++ written e start c := by
  simp [written]

theorem written_newLine_cons (e : LineEnding) (start : String) (c : Comment) :
    written e start (.newLine :: c) = e.text.toList ++ (start.toList ++ written e start c) := by
  rw [written_cons, Node.markup, String.toList_append, List.append_assoc]

theorem head?_written_element (hn : n.kind.isElement = true) (e : LineEnding) (start : String)
    (c : Comment) : (written e start (n :: c)).head? = some '<' := by
  rw [written_cons, Node.head?_markup_append hn]

theorem head?_break_append_ne (e : LineEnding) (r : List Char) :
    (e.text.toList ++ r).head? ≠ some '<' := by
  cases e <;> exact fun h => by cases h

theorem written_cons_ne (hs : start ≠ "") (hn : n.kind ≠ .other) (c : Comment) :
    written e start (n :: c) ≠ e.text.toList := by
  intro h
  rcases Node.eq_newLine_or_isElement hn with rfl | hn
  · have hl := congrArg List.length h
    rw [written_newLine_cons, List.length_append, List.length_append] at hl
    have hpos : 0 < start.toList.length :=
      List.length_pos_iff.2 fun h => hs (String.toList_inj.1 h)
    omega
  · have hh := head?_written_element hn e start c
    rw [h, ← List.append_nil e.text.toList] at hh
    exact head?_break_append_ne e [] hh

theorem written_cons_inj (hc : Readable (n :: c)) (hd : Readable (m :: d))
    (h : written e start (n :: c) = written e start (m :: d)) :
    n = m ∧ written e start c = written e start d := by
  rcases Node.eq_newLine_or_isElement (hc.no_other n List.mem_cons_self) with rfl | hn <;>
    rcases Node.eq_newLine_or_isElement (hd.no_other m List.mem_cons_self) with rfl | hm
  · rw [written_newLine_cons, written_newLine_cons] at h
    exact ⟨rfl, List.append_cancel_left (List.append_cancel_left h)⟩
  · have hh := head?_written_element hm e start d
    rw [← h, written_newLine_cons] at hh
    exact (head?_break_append_ne e _ hh).elim
  · have hh := head?_written_element hn e start c
    rw [h, written_newLine_cons] at hh
    exact (head?_break_append_ne e _ hh).elim
  · obtain ⟨b, hb, t, ht⟩ := exists_break e
    have hbr : (e.text ++ start).toList = b :: (t ++ start.toList) := by
      rw [String.toList_append, ht, List.cons_append]
    rw [written_cons, written_cons] at h
    exact Node.markup_append_inj hn hm (hc.compact n List.mem_cons_self)
      (hd.compact m List.mem_cons_self) hc.breakFree_content hd.breakFree_content hb hbr h

theorem written_inj (hs : start ≠ "") (hc : Readable c) (hd : Readable d)
    (h : written e start c = written e start d) : c = d := by
  induction c generalizing d with
  | nil =>
    cases d with
    | nil => rfl
    | cons m d =>
      rw [written_nil] at h
      exact (written_cons_ne hs (hd.no_other m List.mem_cons_self) d h.symm).elim
  | cons n c ih =>
    cases d with
    | nil =>
      rw [written_nil] at h
      exact (written_cons_ne hs (hc.no_other n List.mem_cons_self) c h).elim
    | cons m d =>
      obtain ⟨rfl, hcd⟩ := written_cons_inj hc hd h
      rw [ih hc.tail hd.tail hcd]

theorem toList_render_of_ne_nil (hc : c ≠ []) (e : LineEnding) (indentation : String) :
    (c.render e.text indentation).toList =
      (indentation ++ "/// ").toList ++ written e (indentation ++ "/// ") c := by
  rw [render_of_ne_nil hc, String.toList_append, String.toList_append, List.append_assoc, written]

theorem render_eq_empty_iff (c : Comment) (e : LineEnding) (indentation : String) :
    c.render e.text indentation = "" ↔ c = [] := by
  constructor
  · intro h
    by_contra hc
    have hl := congrArg (fun s => s.toList.length) h
    simp [toList_render_of_ne_nil hc] at hl
  · rintro rfl
    rfl

/-- A comment can be told from its text: nothing in a name, a reference or a piece of text can be
taken for an element, or an element for one of them. -/
theorem render_inj (hc : Readable c) (hd : Readable d) (e : LineEnding) (indentation : String) :
    c.render e.text indentation = d.render e.text indentation ↔ c = d := by
  refine ⟨fun h => ?_, fun h => by rw [h]⟩
  by_cases hcn : c = []
  · rw [hcn, render_nil, eq_comm, render_eq_empty_iff] at h
    rw [hcn, h]
  · have hdn : d ≠ [] := by
      intro hd
      rw [hd, render_nil, render_eq_empty_iff] at h
      exact hcn h
    have hl := congrArg String.toList h
    rw [toList_render_of_ne_nil hcn, toList_render_of_ne_nil hdn] at hl
    have hs : indentation ++ "/// " ≠ "" := by simp
    exact written_inj hs hc hd (List.append_cancel_left hl)

/-- What reads as the end of one element and as another element is not taken for them. -/
theorem render_inj_forged :
    let c : Comment := [.returns [.text "</returns><param name=\"x\"></param>"]]
    let d : Comment := [.returns [], .param (some "x") []]
    Readable c ∧ Readable d ∧ c.render "\r\n" "    " ≠ d.render "\r\n" "    " := by
  intro c d
  have hc : Readable c := by decide
  have hd : Readable d := by decide
  have hcd : c ≠ d := by decide
  exact ⟨hc, hd, (render_inj hc hd .crlf "    ").not.2 hcd⟩

end

end Comment

end TripleSlash
