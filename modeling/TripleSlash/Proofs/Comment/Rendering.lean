import TripleSlash.Comment.Markup
import TripleSlash.Proofs.Comment.Alternation
import TripleSlash.Proofs.Comment.Coverage

namespace TripleSlash.Comment

section

variable {c e A B : Comment} {ending indentation : String}

@[simp] theorem render_nil (ending indentation : String) : render [] ending indentation = "" := rfl

theorem render_of_ne_nil (hc : c ≠ []) :
    c.render ending indentation = indentation ++ "/// " ++
      String.join (c.map (Node.markup (ending ++ (indentation ++ "/// ")))) ++ ending := by
  cases c with
  | nil => exact (hc rfl).elim
  | cons => rfl

theorem render_append_newLine_cons (hA : A ≠ []) (hB : B ≠ []) :
    render (A ++ .newLine :: B) ending indentation =
      A.render ending indentation ++ B.render ending indentation := by
  have hAB : A ++ .newLine :: B ≠ [] := List.append_ne_nil_of_left_ne_nil hA _
  rw [render_of_ne_nil hA, render_of_ne_nil hB, render_of_ne_nil hAB]
  simp [Node.markup, String.append_assoc]

theorem render_ofElements (es : List Node) (ending indentation : String) :
    (ofElements es).render ending indentation =
      String.join (es.map fun n => render [n] ending indentation) := by
  induction es with
  | nil => rfl
  | cons x es ih =>
    cases es with
    | nil =>
      rw [List.map_singleton, String.join_cons, String.join_nil, String.append_empty]
      rfl
    | cons y es =>
      have hy : ofElements (y :: es) ≠ [] := by
        rw [ofElements_cons]
        exact List.cons_ne_nil y _
      rw [ofElements_cons, trailing_cons, List.map_cons, String.join_cons, ← ih]
      exact render_append_newLine_cons (List.cons_ne_nil x []) hy

theorem render_ofElements_append (E F : List Node) (ending indentation : String) :
    (ofElements (E ++ F)).render ending indentation =
      (ofElements E).render ending indentation ++ (ofElements F).render ending indentation := by
  rw [render_ofElements, render_ofElements, render_ofElements, List.map_append, String.join_append]

theorem ofElements_prefix_append (E F : List Node) : ofElements E <+: ofElements (E ++ F) := by
  cases E with
  | nil => exact List.nil_prefix
  | cons x E =>
    rw [List.cons_append, ofElements_cons, ofElements_cons, trailing_append]
    exact List.prefix_append (x :: trailing E) (trailing F)

theorem ofElements_suffix_append (E F : List Node) : ofElements F <:+ ofElements (E ++ F) := by
  cases F with
  | nil => exact List.nil_suffix
  | cons y F =>
    rw [ofElements_append_cons, ofElements_cons]
    exact List.suffix_append (leading E) (y :: trailing F)

/-- However it is written, `e` has the lines of `c` and among them a line for the node. -/
def AddsLine (n : Node) (c e : Comment) : Prop :=
  ∃ A B : Comment, A <+: c ∧ B <:+ c ∧ ∀ ending indentation : String,
    c.render ending indentation = A.render ending indentation ++ B.render ending indentation ∧
    e.render ending indentation = A.render ending indentation ++
      render [n] ending indentation ++ B.render ending indentation

theorem addsLine_ofElements (E F : List Node) (n : Node) :
    AddsLine n (ofElements (E ++ F)) (ofElements (E ++ n :: F)) := by
  refine ⟨ofElements E, ofElements F, ofElements_prefix_append E F, ofElements_suffix_append E F,
    fun ending indentation => ⟨render_ofElements_append E F ending indentation, ?_⟩⟩
  rw [List.append_cons, render_ofElements_append, render_ofElements_append]
  rfl

theorem Alternating.addsLine (h : Alternating c) (hi : Inserted n c e) : AddsLine n c e := by
  obtain ⟨es, -, rfl⟩ := alternating_iff.1 h
  obtain ⟨E, F, rfl, rfl⟩ := hi.exists_elements rfl
  exact addsLine_ofElements E F n

variable {d : Declaration}

/-- Documenting a parameter adds a line for it to the text and keeps all other lines. -/
theorem addsLine_insertParameter (h : Alternating c) (hi : c.insertParameter d name = .ok e) :
    ∃ p, d.parameters.find? (·.name == name) = some p ∧ Inserted (.ofParameter p) c e ∧
      AddsLine (.ofParameter p) c e := by
  obtain ⟨p, i, a, hf, -, ha, rfl⟩ := insertParameter_cases hi
  have hn : Inserted (.ofParameter p) c (c.splice a (.ofParameter p)) := ha.inserted _
  exact ⟨p, Declaration.find?_of_findParameter? hf, hn, h.addsLine hn⟩

/-- The new line comes first of the parameters, then last. -/
theorem addsLine_insertParameter_copy :
    let d : Declaration :=
      { kind := .method, name := "Copy"
        parameters := [⟨"source", .named "Path"⟩, ⟨"target", .named "Path"⟩,
          ⟨"overwrite", .keyword "bool"⟩] }
    let c : Comment := [.summary [.text "Copies a file."], .newLine,
      .param (some "target") [.text "The <new> file."]]
    c.Alternating ∧
      (∃ e, c.insertParameter d "source" = .ok e ∧
        AddsLine (.ofParameter ⟨"source", .named "Path"⟩) c e) ∧
      ∃ e, c.insertParameter d "overwrite" = .ok e ∧
        AddsLine (.ofParameter ⟨"overwrite", .keyword "bool"⟩) c e := by
  intro d c
  have hc : c.Alternating := .cons rfl (List.cons_ne_nil _ _) (.single rfl)
  have hsource : ∃ e, c.insertParameter d "source" = .ok e := ⟨_, rfl⟩
  have hoverwrite : ∃ e, c.insertParameter d "overwrite" = .ok e := ⟨_, rfl⟩
  obtain ⟨e, he⟩ := hsource
  obtain ⟨f, hf⟩ := hoverwrite
  obtain ⟨p, hp, -, hs⟩ := addsLine_insertParameter hc he
  cases hp
  obtain ⟨q, hq, -, ho⟩ := addsLine_insertParameter hc hf
  cases hq
  exact ⟨hc, ⟨e, he, hs⟩, f, hf, ho⟩

end

end TripleSlash.Comment
