import Mathlib.Data.List.Basic
import TripleSlash.Comment.Basic

namespace TripleSlash.Comment

/-- Elements with a line break behind each. -/
def leading (elements : List Node) : Comment := elements.flatMap fun n => [n, .newLine]

/-- Elements with a line break in front of each. -/
def trailing (elements : List Node) : Comment := elements.flatMap fun n => [.newLine, n]

section

variable {A B : List Node} {n x : Node}

@[simp] theorem trailing_append (A B : List Node) : trailing (A ++ B) = trailing A ++ trailing B :=
  List.flatMap_append

theorem foldl_push (hc : c ≠ []) (B : List Node) : B.foldl push c = c ++ trailing B := by
  induction B generalizing c with
  | nil => exact (List.append_nil c).symm
  | cons n B ih =>
    cases c with
    | nil => exact (hc rfl).elim
    | cons x c =>
      have hp : push (x :: c) n = (x :: c) ++ [.newLine, n] := rfl
      rw [List.foldl_cons, hp, ih (by simp), List.append_assoc]
      rfl

theorem ofElements_cons (x : Node) (B : List Node) : ofElements (x :: B) = x :: trailing B :=
  foldl_push (List.cons_ne_nil x []) B

theorem trailing_append_cons (A B : List Node) (x : Node) :
    trailing (A ++ x :: B) = .newLine :: (leading A ++ x :: trailing B) := by
  induction A with
  | nil => rfl
  | cons n A ih =>
    have ht : trailing (n :: (A ++ x :: B)) = .newLine :: n :: trailing (A ++ x :: B) := rfl
    rw [List.cons_append, ht, ih]
    rfl

theorem ofElements_append_cons (A B : List Node) (x : Node) :
    ofElements (A ++ x :: B) = leading A ++ x :: trailing B := by
  cases A with
  | nil => exact ofElements_cons x B
  | cons n A =>
    rw [List.cons_append, ofElements_cons, trailing_append_cons]
    rfl

theorem forall_mem_leading {f : Node → Prop} (hf : f .newLine) (hA : ∀ n ∈ A, f n) :
    ∀ n ∈ leading A, f n := by
  intro n hn
  obtain ⟨m, hm, hn⟩ := List.mem_flatMap.1 hn
  rcases List.mem_pair.1 hn with rfl | rfl
  · exact hA _ hm
  · exact hf

theorem forall_mem_trailing {f : Node → Prop} (hf : f .newLine) (hB : ∀ n ∈ B, f n) :
    ∀ n ∈ trailing B, f n := by
  intro n hn
  obtain ⟨m, hm, hn⟩ := List.mem_flatMap.1 hn
  rcases List.mem_pair.1 hn with rfl | rfl
  · exact hf
  · exact hB _ hm

theorem forall_mem_ofElements {f : Node → Prop} (hf : f .newLine) (hA : ∀ n ∈ A, f n) :
    ∀ n ∈ ofElements A, f n := by
  cases A with
  | nil => exact hA
  | cons x A =>
    rw [ofElements_cons, List.forall_mem_cons]
    rw [List.forall_mem_cons] at hA
    exact ⟨hA.1, forall_mem_trailing hf hA.2⟩

theorem mem_ofElements_of_ne_newLine (hn : n ≠ .newLine) : n ∈ ofElements A ↔ n ∈ A := by
  cases A with
  | nil => rfl
  | cons x A =>
    simp [ofElements_cons, trailing, hn]

end

end TripleSlash.Comment
