import TripleSlash.Comment.Edit
import TripleSlash.Proofs.Comment.Sections

namespace TripleSlash

namespace Comment

/-- Elements with one line break between any two neighbours. -/
inductive Alternating : Comment → Prop
  | nil : Alternating []
  | single {x : Node} : x.isContent = true → Alternating [x]
  | cons {x : Node} {c : Comment} : x.isContent = true → c ≠ [] → Alternating c →
      Alternating (x :: .newLine :: c)

section

variable {c e A B : Comment} {es E F : List Node} {n x : Node}

theorem trailing_cons (x : Node) (es : List Node) :
    trailing (x :: es) = .newLine :: ofElements (x :: es) := by
  rw [ofElements_cons]
  rfl

theorem alternating_ofElements (h : ∀ n ∈ es, n.isContent = true) :
    Alternating (ofElements es) := by
  induction es with
  | nil => exact .nil
  | cons x es ih =>
    rw [List.forall_mem_cons] at h
    cases es with
    | nil => exact .single h.1
    | cons y es =>
      rw [ofElements_cons, trailing_cons]
      refine .cons h.1 ?_ (ih h.2)
      rw [ofElements_cons]
      exact List.cons_ne_nil _ _

/-- A comment alternates if each of its elements is on a line of its own. -/
theorem alternating_iff :
    Alternating c ↔ ∃ es, (∀ n ∈ es, n.isContent = true) ∧ c = ofElements es := by
  constructor
  · intro h
    induction h with
    | nil => exact ⟨[], by simp, rfl⟩
    | @single x hx => exact ⟨[x], by simpa using hx, rfl⟩
    | @cons x c hx hne hc ih =>
      obtain ⟨es, hes, rfl⟩ := ih
      cases es with
      | nil => exact (hne rfl).elim
      | cons y es =>
        refine ⟨x :: y :: es, List.forall_mem_cons.2 ⟨hx, hes⟩, ?_⟩
        rw [ofElements_cons x, trailing_cons]
  · rintro ⟨es, hes, rfl⟩
    exact alternating_ofElements hes

theorem exists_elements_cut (hx : x.isContent = true) (h : ofElements es = A ++ x :: B) :
    ∃ E F, es = E ++ x :: F ∧ A = leading E ∧ B = trailing F := by
  induction es generalizing A with
  | nil => cases (List.append_eq_nil_iff.1 h.symm).2
  | cons y es ih =>
    rw [ofElements_cons] at h
    cases A with
    | nil =>
      obtain ⟨rfl, rfl⟩ := List.cons.inj h
      exact ⟨[], es, rfl, rfl, rfl⟩
    | cons z A =>
      obtain ⟨rfl, ht⟩ := List.cons.inj h
      cases es with
      | nil => cases (List.append_eq_nil_iff.1 ht.symm).2
      | cons w es =>
        rw [trailing_cons] at ht
        cases A with
        | nil =>
          obtain ⟨rfl, -⟩ := List.cons.inj ht
          cases hx
        | cons v A =>
          obtain ⟨rfl, hc⟩ := List.cons.inj ht
          obtain ⟨E, F, he, rfl, rfl⟩ := ih hc
          exact ⟨y :: E, F, congrArg (y :: ·) he, rfl, rfl⟩

theorem Inserted.exists_elements (h : Inserted n c e) (hc : c = ofElements es) :
    ∃ E F, es = E ++ F ∧ e = ofElements (E ++ n :: F) := by
  cases h with
  | before hx =>
    obtain ⟨E, F, rfl, rfl, rfl⟩ := exists_elements_cut hx hc.symm
    refine ⟨E, _, rfl, ?_⟩
    rw [ofElements_append_cons]
    rfl
  | after hx =>
    obtain ⟨E, F, rfl, rfl, rfl⟩ := exists_elements_cut hx hc.symm
    refine ⟨E ++ [_], F, List.append_cons _ _ _, ?_⟩
    rw [← List.append_cons, ofElements_append_cons]
    rfl

theorem Alternating.inserted (h : Alternating c) (hi : Inserted n c e) (hn : n.isContent = true) :
    Alternating e := by
  obtain ⟨es, hes, rfl⟩ := alternating_iff.1 h
  obtain ⟨E, F, rfl, rfl⟩ := hi.exists_elements rfl
  apply alternating_ofElements
  rw [List.forall_mem_append] at hes
  rw [List.forall_mem_append, List.forall_mem_cons]
  exact ⟨hes.1, hn, hes.2⟩

theorem Alternating.push (h : Alternating c) (hn : n.isContent = true) :
    Alternating (c.push n) := by
  obtain ⟨es, hes, rfl⟩ := alternating_iff.1 h
  have hp : (ofElements es).push n = ofElements (es ++ [n]) := by simp [ofElements]
  rw [hp]
  apply alternating_ofElements
  rw [List.forall_mem_append]
  exact ⟨hes, by simpa using hn⟩

variable {s : Settings} {oracle : Oracle} {d : Declaration}

theorem Alternating.insertParameter (h : Alternating c) (hi : c.insertParameter d name = .ok e) :
    Alternating e := by
  obtain ⟨p, i, a, -, -, ha, rfl⟩ := insertParameter_cases hi
  exact h.inserted (ha.inserted _) rfl

theorem Alternating.insertMissing (h : Alternating c) (hi : c.insertMissing d = .ok e) :
    Alternating e :=
  insertMissing_induction (fun _ _ _ h hi => h.insertParameter hi) h hi

theorem Sectioned.isContent (h : Sectioned es) : ∀ n ∈ es, n.isContent = true := by
  intro n hn
  rw [Node.isContent_iff]
  cases h with
  | mk hx hT hP hR hX =>
    simp only [List.mem_append, List.mem_cons] at hn
    rcases hn with (((rfl | hn) | hn) | hn) | hn
    · simp [hx]
    · simp [hT n hn]
    · simp [hP n hn]
    · simp [hR n hn]
    · simp [hX n hn]

theorem alternating_of_assemble (h : assemble s d oracle = .ok e) : Alternating e := by
  obtain ⟨es, hs, rfl⟩ := exists_elements_of_assemble h
  exact alternating_ofElements hs.isContent

end

end Comment

namespace Edit

/-- The edits that add elements on lines of their own, or write the whole comment anew. -/
def isElementwise : Edit → Bool
  | push n => n.isContent
  | document _ | documentAll | assemble => true
  | insert _ _ | splice _ _ | replace _ => false

variable {s : Settings} {oracle : Oracle} {d : Declaration} {c : Comment} {e : Edit}

theorem alternating_apply (h : c.Alternating) (he : e.isElementwise = true)
    (ha : e.apply s d c oracle = .ok f) : f.Alternating := by
  cases e with
  | push n =>
    cases ha
    exact h.push he
  | document name => exact h.insertParameter ha
  | documentAll => exact h.insertMissing ha
  | assemble => exact Comment.alternating_of_assemble ha
  | insert | splice | replace => cases he

theorem alternating_applyOrKeep (h : c.Alternating) (he : e.isElementwise = true) :
    (e.applyOrKeep s d c oracle).Alternating := by
  unfold applyOrKeep
  split
  case h_1 f ha => exact alternating_apply h he ha
  case h_2 => exact h

end Edit

/-- A comment with the settings, the oracle and the declaration that it is edited for. -/
structure Session where
  settings : Settings
  oracle : Oracle := settings.oracle
  declaration : Declaration
  comment : Comment

namespace Session

inductive Step
  | edit (edit : Edit)
  | useSettings (settings : Settings) (oracle : Oracle := settings.oracle)
  | useDeclaration (declaration : Declaration)

def step (s : Session) : Step → Session
  | .edit e => { s with comment := e.applyOrKeep s.settings s.declaration s.comment s.oracle }
  | .useSettings settings oracle => { s with settings, oracle }
  | .useDeclaration declaration => { s with declaration }

def Step.isElementwise : Step → Bool
  | edit e => e.isElementwise
  | useSettings _ _ | useDeclaration _ => true

theorem alternating_step {s : Session} (h : s.comment.Alternating) (ht : t.isElementwise = true) :
    (s.step t).comment.Alternating := by
  cases t with
  | edit e => exact Edit.alternating_applyOrKeep h ht
  | useSettings | useDeclaration => exact h

/-- The comment of a session alternates between elements and line breaks after each step. -/
theorem alternating_scanl {s : Session} {steps : List Step} (h : s.comment.Alternating)
    (hs : ∀ t ∈ steps, t.isElementwise = true) :
    ∀ r ∈ steps.scanl step s, r.comment.Alternating := by
  induction steps generalizing s with
  | nil => simpa using h
  | cons t steps ih =>
    rw [List.forall_mem_cons] at hs
    rw [List.scanl_cons, List.forall_mem_cons]
    exact ⟨h, ih (alternating_step h hs.1) hs.2⟩

/-- The first edit fails for want of an element to insert after, and the fourth since the parameter
is documented. -/
theorem alternating_scanl_copy :
    let d : Declaration :=
      { kind := .method, name := "Copy"
        parameters := [⟨"source", .named "Path"⟩, ⟨"target", .named "Path"⟩] }
    let s : Session := { settings := {}, declaration := d, comment := [] }
    let steps : List Step :=
      [.edit (.document "source"), .edit (.push (.other "<remarks/>")), .edit (.document "target"),
        .edit (.document "target"), .edit .documentAll,
        .useDeclaration { d with kind := .delegate }, .useSettings { inflectVerbs := false },
        .edit .assemble, .edit (.push (.exception "IOException" []))]
    s.comment.Alternating ∧ (∀ t ∈ steps, t.isElementwise = true) ∧
      ∀ r ∈ steps.scanl step s, r.comment.Alternating := by
  intro d s steps
  have hs : ∀ t ∈ steps, t.isElementwise = true := by decide
  exact ⟨.nil, hs, alternating_scanl .nil hs⟩

end Session

end TripleSlash
