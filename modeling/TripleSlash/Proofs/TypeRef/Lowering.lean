import TripleSlash.Proofs.TypeRef.Legible
import TripleSlash.TypeRef.Shape

namespace TripleSlash.TypeRef

section

variable {P : TypeRef → Prop} (keyword : ∀ t, P (.keyword t)) (named : ∀ t, P (.named t))
  (dotted : ∀ ss, (∀ s ∈ ss, P s) → P (.dotted ss))
  (generic : ∀ c as, (∀ a ∈ as, P a) → P (.generic c as)) (array : ∀ e, P e → P (.array e))
  (nullable : ∀ e, P e → P (.nullable e)) (raw : ∀ t, P (.raw t))

include keyword named dotted generic array nullable raw in
/-- What a reference has if its segments, its arguments or its element have it, every reference
has. -/
@[elab_as_elim]
theorem part_induction : ∀ t, P t
  | .keyword t => keyword t
  | .named t => named t
  | .dotted ss => dotted ss fun s _ => part_induction s
  | .generic c as => generic c as fun a _ => part_induction a
  | .array e => array e (part_induction e)
  | .nullable e => nullable e (part_induction e)
  | .raw t => raw t

end

theorem texts_shapes (h : ∀ t ∈ ts, t.shape.text = t.text) :
    Shape.texts (shapes ts) = texts ts := by
  induction ts with
  | nil => rfl
  | cons t ts ih =>
    obtain ⟨ht, hts⟩ := List.forall_mem_cons.1 h
    rw [shapes, Shape.texts, texts, ht, ih hts]

theorem text_shape (t : TypeRef) : t.shape.text = t.text := by
  induction t using part_induction with
  | keyword t => rfl
  | named t => rfl
  | dotted ss ih => rfl
  | generic c as ih => rw [shape, Shape.text, text, texts_shapes ih]
  | array e ih => rw [shape, Shape.text, text, ih]
  | nullable e ih => rfl
  | raw t => rfl

mutual

/-- Writes the reference behind a text, one piece after another. -/
def write (out : String) : TypeRef → String
  | .keyword t | .named t | .raw t => out ++ t
  | .dotted ss => writeItems "." 0 out ss
  | .generic c as => writeItems ", " 0 (out ++ c ++ "<") as ++ ">"
  | .array e => e.write out ++ "[]"
  | .nullable e => e.write out ++ "?"

/-- Writes the items from a position on, the separator before each that is not the first. -/
def writeItems (sep : String) (i : Nat) (out : String) : List TypeRef → String
  | [] => out
  | t :: ts => writeItems sep (i + 1) (t.write (if 0 < i then out ++ sep else out)) ts

end

section

variable {sep out : String} {ts : List TypeRef} (h : ∀ t ∈ ts, ∀ out, t.write out = out ++ t.text)

include h

theorem writeItems_of_ne_nil (hne : ts ≠ []) : writeItems sep i out ts =
    (if 0 < i then out ++ sep else out) ++ sep.intercalate (texts ts) := by
  induction ts generalizing i out with
  | nil => exact (hne rfl).elim
  | cons t ts ih =>
    obtain ⟨ht, hts⟩ := List.forall_mem_cons.1 h
    rw [writeItems, ht]
    cases ts with
    | nil => rw [writeItems, texts, texts, String.intercalate_singleton]
    | cons u us =>
      rw [ih hts (List.cons_ne_nil u us), if_pos i.succ_pos]
      simp only [texts, String.intercalate_cons_cons, String.append_assoc]

theorem writeItems_zero : writeItems sep 0 out ts = out ++ sep.intercalate (texts ts) := by
  cases ts with
  | nil => rw [writeItems, texts, String.intercalate_nil, String.append_empty]
  | cons t ts => rw [writeItems_of_ne_nil h (List.cons_ne_nil t ts), if_neg (Nat.lt_irrefl 0)]

end

theorem write_eq_append_text (t : TypeRef) (out : String) : t.write out = out ++ t.text := by
  induction t using part_induction generalizing out with
  | keyword t => rfl
  | named t => rfl
  | dotted ss ih => exact writeItems_zero ih
  | generic c as ih =>
    rw [write, writeItems_zero ih, text]
    simp only [String.append_assoc]
  | array e ih => rw [write, ih, text, String.append_assoc]
  | nullable e ih => rw [write, ih, text, String.append_assoc]
  | raw t => rfl

/-- The shape of a reference has the text of the reference, also where no text is read as that
reference. The shape joins the texts of its arguments; the reference written piece by piece comes
out the same. -/
theorem shape_keeps_text (t : TypeRef) (out : String) :
    t.shape.text = t.text ∧ t.write out = out ++ t.shape.text := by
  rw [text_shape]
  exact ⟨rfl, t.write_eq_append_text out⟩

example :
    (generic "A" [.dotted [], .nullable (.generic "B" []), .raw "(C"]).shape.text =
      "A<, B<>?, (C>" :=
  rfl

theorem Legible.shape_inj (ht : Legible t) (hu : Legible u) (h : t.shape = u.shape) : t = u := by
  rw [← ht.parse_text, ← text_shape, h, text_shape, hu.parse_text]

end TripleSlash.TypeRef
