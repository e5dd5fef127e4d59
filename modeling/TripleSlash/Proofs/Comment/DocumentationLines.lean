import TripleSlash.Proofs.Comment.Escaping
import TripleSlash.Proofs.Comment.Rendering

namespace TripleSlash

namespace Text

/-- Lines that each start with the indentation and three slashes and end with the line ending. -/
inductive DocumentationLines (ending indentation : String) : String → Prop
  | nil : DocumentationLines ending indentation ""
  | cons {body rest : String} : BreakFree body → DocumentationLines ending indentation rest →
      DocumentationLines ending indentation (indentation ++ "/// " ++ body ++ ending ++ rest)

theorem BreakFree.count_eq_zero (h : BreakFree s) (hb : b ∈ breaks) : s.toList.count b = 0 :=
  List.count_eq_zero.2 (h b hb)

theorem breakFree_of_count_eq_zero (h : ∀ b ∈ breaks, s.toList.count b = 0) : BreakFree s :=
  fun b hb => List.count_eq_zero.1 (h b hb)

theorem count_lineFeed (e : LineEnding) : e.text.toList.count '\n' = 1 := by
  cases e <;> rfl

section

variable {e : LineEnding} {indentation text : String}

theorem DocumentationLines.count_break (h : DocumentationLines e.text indentation text)
    (hi : BreakFree indentation) (hb : b ∈ breaks) :
    text.toList.count b = text.toList.count '\n' * e.text.toList.count b := by
  have hn : '\n' ∈ breaks := by decide
  have hs : BreakFree "/// " := by decide
  induction h with
  | nil => simp
  | cons hbody _ ih =>
    simp only [String.toList_append, List.count_append, hi.count_eq_zero, hs.count_eq_zero,
      hbody.count_eq_zero, hb, hn, count_lineFeed, ih, Nat.zero_add, Nat.add_mul, Nat.one_mul]

theorem DocumentationLines.count_start_le (h : DocumentationLines e.text indentation text)
    (hi : BreakFree indentation) (x : Char) :
    text.toList.count '\n' * (indentation ++ "/// ").toList.count x ≤ text.toList.count x := by
  have hn : '\n' ∈ breaks := by decide
  have hs : BreakFree "/// " := by decide
  induction h with
  | nil => simp
  | cons hbody _ ih =>
    simp only [String.toList_append, List.count_append, hi.count_eq_zero hn, hs.count_eq_zero hn,
      hbody.count_eq_zero hn, count_lineFeed, Nat.zero_add, Nat.add_mul, Nat.one_mul] at ih ⊢
    omega

end

end Text

namespace Node

/-- How many line breaks a node stands for. -/
def lineBreaks : Node → Nat
  | newLine => 1
  | summary _ => 2
  | _ => 0

theorem count_markup (n : Node) (br : String) (x : Char) :
    (n.markup br).toList.count x =
      n.lineBreaks * br.toList.count x + (n.markup "").toList.count x := by
  cases n with
  | newLine => simp [markup, lineBreaks]
  | summary content =>
    simp only [markup, Markup.element, lineBreaks, String.toList_append, List.count_append]
    simp
    omega
  | _ => simp [markup, lineBreaks]

theorem breakFree_markup (n : Node) :
    Text.BreakFree (n.markup "") ↔ ∀ s ∈ n.strings, Text.BreakFree s := by
  cases n with
  | newLine => simp +decide
  | summary c | returns c =>
    rw [markup, Markup.breakFree_element (by decide)]
    simp +decide [strings, label?, content]
  | typeParam name c | param name c =>
    rw [markup, Markup.breakFree_element (by decide)]
    cases name with
    | none => simp +decide [strings, label?, content]
    | some name => simp +decide [strings, label?, content, Markup.breakFree_attr]
  | exception cref c =>
    rw [markup, Markup.breakFree_element (by decide)]
    simp +decide [strings, label?, content, Markup.breakFree_attr]
  | other raw => simp [markup, strings, label?, content]

end Node

namespace Comment

open Text

/-- The text of a comment with all line breaks between and inside its elements left out. -/
def unbroken (c : Comment) : String := String.join (c.map (Node.markup ""))

def lineBreaks : Comment → Nat
  | [] => 0
  | n :: c => n.lineBreaks + lineBreaks c

def lineCount (c : Comment) : Nat := c.lineBreaks + 1

section

variable {c : Comment} {e : LineEnding} {indentation : String}

theorem breakFree_unbroken (c : Comment) :
    BreakFree c.unbroken ↔ ∀ s ∈ c.strings, BreakFree s := by
  unfold unbroken strings
  induction c with
  | nil => simp +decide
  | cons n c ih =>
    rw [List.map_cons, String.join_cons, breakFree_append, ih, Node.breakFree_markup,
      List.flatMap_cons, List.forall_mem_append]

theorem count_join_markup (c : Comment) (br : String) (x : Char) :
    (String.join (c.map (Node.markup br))).toList.count x =
      c.lineBreaks * br.toList.count x + c.unbroken.toList.count x := by
  unfold unbroken
  induction c with
  | nil => simp [lineBreaks]
  | cons n c ih =>
    simp only [List.map_cons, String.join_cons, String.toList_append, List.count_append,
      lineBreaks, Nat.add_mul, n.count_markup br, ih]
    omega

theorem count_render (hc : c ≠ []) (ending indentation : String) (x : Char) :
    (c.render ending indentation).toList.count x =
      c.lineCount * (ending ++ (indentation ++ "/// ")).toList.count x +
        c.unbroken.toList.count x := by
  have hbr : (ending ++ (indentation ++ "/// ")).toList.count x =
      ending.toList.count x + (indentation ++ "/// ").toList.count x := by
    rw [String.toList_append, List.count_append]
  rw [render_of_ne_nil hc, lineCount, String.toList_append, String.toList_append, List.count_append,
    List.count_append, count_join_markup, Nat.add_mul, Nat.one_mul]
  omega

theorem documentationLines_join_markup (hc : ∀ s ∈ c.strings, BreakFree s)
    (hb : BreakFree body) : DocumentationLines e.text indentation (indentation ++ "/// " ++ body ++
      String.join (c.map (Node.markup (e.text ++ (indentation ++ "/// ")))) ++ e.text) := by
  induction c generalizing body with
  | nil => simpa using DocumentationLines.cons hb .nil
  | cons n c ih =>
    rw [strings, List.flatMap_cons, List.forall_mem_append] at hc
    have hm : BreakFree (n.markup "") := n.breakFree_markup.2 hc.1
    rw [List.map_cons, String.join_cons]
    cases n with
    | newLine =>
      have hn : BreakFree "" := by decide
      have hl := DocumentationLines.cons hb (ih hc.2 hn)
      simpa [Node.markup, String.append_assoc] using hl
    | summary content =>
      have hs : BreakFree (Inline.markups content) := by
        rw [Node.markup, Markup.breakFree_element (by decide)] at hm
        simpa using hm.2
      have ho : BreakFree (body ++ ("<" ++ "summary" ++ ">")) := breakFree_append.2 ⟨hb, by decide⟩
      have hn : BreakFree ("</" ++ "summary" ++ ">") := by decide
      have hl := DocumentationLines.cons ho (.cons hs (ih hc.2 hn))
      simpa [Node.markup, Markup.element, String.append_assoc] using hl
    | typeParam | param | returns | exception | other =>
      have hl := ih hc.2 (breakFree_append.2 ⟨hb, hm⟩)
      simpa only [Node.markup, String.append_assoc] using hl

/-- Where no string has a line break, all lines are documentation lines. -/
theorem documentationLines_render (hc : ∀ s ∈ c.strings, BreakFree s) (e : LineEnding)
    (indentation : String) :
    DocumentationLines e.text indentation (c.render e.text indentation) := by
  by_cases hne : c = []
  · rw [hne]
    exact .nil
  · have hn : BreakFree "" := by decide
    rw [render_of_ne_nil hne]
    simpa using documentationLines_join_markup hc hn

theorem count_break_render (hne : c ≠ []) (hi : BreakFree indentation) (hb : b ∈ breaks) :
    (c.render e.text indentation).toList.count b =
      c.lineCount * e.text.toList.count b + c.unbroken.toList.count b := by
  have hs : BreakFree "/// " := by decide
  have hbr : (e.text ++ (indentation ++ "/// ")).toList.count b = e.text.toList.count b := by
    simp only [String.toList_append, List.count_append, hi.count_eq_zero hb, hs.count_eq_zero hb,
      Nat.add_zero]
  rw [count_render hne, hbr]

/-- There are no more lines than the comment itself breaks, as each of them starts with more blanks
than the comment has. -/
theorem count_lineFeed_unbroken (hne : c ≠ []) (hi : BreakFree indentation)
    (hl : DocumentationLines e.text indentation (c.render e.text indentation))
    (hlt : c.unbroken.toList.count ' ' < indentation.toList.count ' ') :
    c.unbroken.toList.count '\n' = 0 := by
  have hblanks := hl.count_start_le hi ' '
  have hbr : (e.text ++ (indentation ++ "/// ")).toList.count ' ' =
      (indentation ++ "/// ").toList.count ' ' := by
    rw [String.toList_append, List.count_append, Nat.add_eq_right]
    cases e <;> rfl
  rw [count_break_render hne hi (by decide), count_lineFeed, count_render hne, Nat.mul_one,
    Nat.add_mul, hbr] at hblanks
  have hle := Nat.le_of_add_le_add_left hblanks
  have hstart : indentation.toList.count ' ' ≤ (indentation ++ "/// ").toList.count ' ' := by
    rw [String.toList_append, List.count_append]
    exact Nat.le_add_right _ _
  by_contra hk
  have hk' : 1 ≤ c.unbroken.toList.count '\n' := Nat.pos_of_ne_zero hk
  have hmul := Nat.mul_le_mul_right ((indentation ++ "/// ").toList.count ' ') hk'
  omega

theorem breakFree_of_documentationLines (hi : BreakFree indentation)
    (hl : DocumentationLines e.text indentation (c.render e.text indentation))
    (hlt : c.unbroken.toList.count ' ' < indentation.toList.count ' ') :
    ∀ s ∈ c.strings, BreakFree s := by
  by_cases hne : c = []
  · simp [hne, strings]
  · rw [← breakFree_unbroken]
    apply breakFree_of_count_eq_zero
    intro b hb
    have hcount := hl.count_break hi hb
    rw [count_break_render hne hi hb, count_break_render hne hi (by decide), count_lineFeed,
      Nat.mul_one, count_lineFeed_unbroken hne hi hl hlt, Nat.add_zero] at hcount
    omega

/-- A comment is written in documentation lines, however far it is indented, exactly if none of its
strings breaks a line. -/
theorem documentationLines_render_iff (c : Comment) (e : LineEnding) :
    (∀ indentation, BreakFree indentation →
        DocumentationLines e.text indentation (c.render e.text indentation)) ↔
      ∀ s ∈ c.strings, BreakFree s := by
  constructor
  · intro h
    let blanks : List Char := List.replicate (c.unbroken.toList.count ' ' + 1) ' '
    have hi : BreakFree (String.ofList blanks) := by
      intro b hb hm
      rw [String.toList_ofList] at hm
      rw [List.eq_of_mem_replicate hm] at hb
      revert hb
      decide
    exact breakFree_of_documentationLines hi (h _ hi) (by simp [blanks])
  · exact fun hc indentation _ => documentationLines_render hc e indentation

/-- The second line of the summary starts without indentation and slashes. -/
theorem not_documentationLines_render_summary :
    let c : Comment := [.summary [.text "Copies a file.\nKeeps its name."]]
    BreakFree "    " ∧ ¬DocumentationLines "\n" "    " (c.render "\n" "    ") := by
  intro c
  have hi : BreakFree "    " := by decide
  refine ⟨hi, fun h => ?_⟩
  -- Four lines take twelve slashes, and there are ten.
  have hslashes := h.count_start_le (e := .lf) hi '/'
  revert hslashes
  decide

end

end Comment

end TripleSlash
