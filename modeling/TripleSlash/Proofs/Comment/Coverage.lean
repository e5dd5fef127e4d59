import Mathlib.Data.List.Induction
import TripleSlash.Proofs.Comment.Lines
import TripleSlash.Proofs.Comment.Order

namespace TripleSlash

theorem pairwise_idxOf_eraseDups_append {l : List String} {x : String}
    (h : l.eraseDups.Pairwise fun a b => l.idxOf a < l.idxOf b) :
    (l ++ [x]).eraseDups.Pairwise fun a b => (l ++ [x]).idxOf a < (l ++ [x]).idxOf b := by
  have hl : l.eraseDups.Pairwise fun a b => (l ++ [x]).idxOf a < (l ++ [x]).idxOf b := by
    refine h.imp_of_mem fun {a b} ha hb hab => ?_
    rwa [List.idxOf_append_of_mem (List.mem_eraseDups.1 ha),
      List.idxOf_append_of_mem (List.mem_eraseDups.1 hb)]
  rw [List.eraseDups_append]
  by_cases hx : x ∈ l
  · have hr : ([x].removeAll l).eraseDups = [] := by simp [List.removeAll, hx]
    rwa [hr, List.append_nil]
  · have hr : ([x].removeAll l).eraseDups = [x] := by simp [List.removeAll, hx, List.eraseDups_cons]
    rw [hr, List.pairwise_append]
    refine ⟨hl, List.pairwise_singleton _ x, fun a ha b hb => ?_⟩
    obtain rfl := List.mem_singleton.1 hb
    have ha' : a ∈ l := List.mem_eraseDups.1 ha
    rw [List.idxOf_append_of_mem ha', List.idxOf_append_of_notMem hx]
    exact Nat.lt_add_right _ (List.idxOf_lt_length_of_mem ha')

theorem pairwise_idxOf_eraseDups (l : List String) :
    l.eraseDups.Pairwise fun a b => l.idxOf a < l.idxOf b := by
  induction l using List.reverseRecOn with
  | nil => exact .nil
  | append_singleton l x ih => exact pairwise_idxOf_eraseDups_append ih

theorem nodup_eraseDups (l : List String) : l.eraseDups.Nodup :=
  (pairwise_idxOf_eraseDups l).imp fun hab he => by simp [he] at hab

namespace Declaration

theorem find?_of_findParameter? {d : Declaration} {name : String}
    (h : d.findParameter? name = some (p, i)) :
    d.parameters.find? (·.name == name) = some p := by
  have hz : d.parameters.zipIdx.map Prod.fst = d.parameters := by simp
  rw [← hz, List.find?_map]
  exact congrArg (Option.map Prod.fst) h

end Declaration

namespace Comment

/-- `e` is `c` with a new line for each of the parameters. -/
structure Extends (ps : List Parameter) (c e : Comment) : Prop where
  sublist : c.Sublist e
  perm : e.Perm (c ++ trailing (ps.map Node.ofParameter))

theorem paramNames_trailing (ps : List Parameter) :
    paramNames (trailing (ps.map Node.ofParameter)) = ps.map (·.name) := by
  induction ps with
  | nil => rfl
  | cons p ps ih => exact congrArg (p.name :: ·) ih

theorem Between.extends (h : Between (.ofParameter p) A B e) : Extends [p] (A ++ B) e where
  sublist := h.sublist
  perm := h.perm

theorem Extends.refl (c : Comment) : Extends [] c c where
  sublist := .refl c
  perm := .of_eq (List.append_nil c).symm

theorem Extends.trans (h : Extends ps c e) (h' : Extends qs e f) : Extends (ps ++ qs) c f where
  sublist := h.sublist.trans h'.sublist
  perm := by
    rw [List.map_append, trailing_append, ← List.append_assoc]
    exact h'.perm.trans (h.perm.append_right _)

theorem Extends.mem_paramNames (h : Extends ps c e) :
    name ∈ e.paramNames ↔ name ∈ c.paramNames ∨ name ∈ ps.map (·.name) := by
  have hp : e.paramNames.Perm (c.paramNames ++ ps.map (·.name)) := by
    rw [← paramNames_trailing, ← paramNames_append]
    exact h.perm.filterMap _
  rw [hp.mem_iff, List.mem_append]

section

variable {d : Declaration} {c e : Comment} {name : String} {names : List String}

/-- The declared names that a comment does not document, each once. -/
def undocumented (d : Declaration) (c : Comment) : List String :=
  d.parameterNames.eraseDups.filter (!c.documents ·)

theorem mem_undocumented :
    name ∈ c.undocumented d ↔ name ∈ d.parameterNames ∧ c.documents name = false := by
  simp [undocumented, List.mem_eraseDups]

theorem insertMissing_eq_foldlM (d : Declaration) (c : Comment) :
    c.insertMissing d = (c.undocumented d).foldlM (insertParameter d) c :=
  (foldlM_insertParameter_eq (List.Subset.refl _) ((nodup_eraseDups _).filter _)
    fun _ => mem_undocumented).symm

theorem undocumented_eq_nil (h : ∀ name ∈ d.parameterNames, c.documents name = true) :
    c.undocumented d = [] := by
  rw [List.eq_nil_iff_forall_not_mem]
  intro name hn
  obtain ⟨hd, hc⟩ := mem_undocumented.1 hn
  rw [h name hd] at hc
  cases hc

theorem insertMissing_of_documents (h : ∀ name ∈ d.parameterNames, c.documents name = true) :
    c.insertMissing d = .ok c := by
  rw [insertMissing_eq_foldlM, undocumented_eq_nil h]
  rfl

theorem insertMissing_eq_error (hn : ∃ name ∈ d.parameterNames, c.documents name = false)
    (hc : ∀ n ∈ c, n.isContent = false) : c.insertMissing d = .error .nothingToInsertAfter := by
  obtain ⟨name, hn⟩ := hn
  have hm : name ∈ c.undocumented d := mem_undocumented.2 hn
  rw [insertMissing_eq_foldlM]
  cases hu : c.undocumented d with
  | nil =>
    rw [hu] at hm
    cases hm
  | cons first names =>
    have hf : first ∈ c.undocumented d := hu ▸ List.mem_cons_self
    obtain ⟨hd, hc'⟩ := mem_undocumented.1 hf
    obtain ⟨p, i, hp⟩ := Declaration.exists_findParameter? hd
    rw [List.foldlM_cons, insertParameter_eq_error hp hc' hc]
    rfl

theorem extends_of_insertParameter (h : c.insertParameter d name = .ok e) :
    ∃ p, p.name = name ∧ d.parameters.find? (·.name == p.name) = some p ∧ Extends [p] c e := by
  obtain ⟨p, i, a, hf, -, ha, rfl⟩ := insertParameter_cases h
  obtain ⟨-, rfl, -⟩ := Declaration.findParameter?_eq_some hf
  obtain ⟨A, B, rfl, hs, -⟩ := ha.exists_cut (.ofParameter p)
  exact ⟨p, rfl, Declaration.find?_of_findParameter? hf, hs.extends⟩

/-- Documenting one parameter answers that it is unknown, else that it is documented, else that
there is no element to stand beside, and else puts one new line beside an element. -/
theorem insertParameter_outcome (d : Declaration) (c : Comment) (name : String) :
    if name ∉ d.parameterNames then c.insertParameter d name = .error (.unknownParameter name)
    else if ∃ n ∈ c, n.paramName? = some name then
      c.insertParameter d name = .error (.alreadyDocumented name)
    else if ∀ n ∈ c, n = .newLine then c.insertParameter d name = .error .nothingToInsertAfter
    else ∃ p e, d.parameters.find? (·.name == name) = some p ∧
      c.insertParameter d name = .ok e ∧ Inserted (.ofParameter p) c e := by
  have hdoc : c.documents name = true ↔ ∃ n ∈ c, n.paramName? = some name := by simp [documents]
  split
  case isTrue hn => exact insertParameter_of_not_declared hn
  case isFalse hn =>
    have hn : name ∈ d.parameterNames := not_not.1 hn
    split
    case isTrue hd => exact insertParameter_of_documents hn (hdoc.2 hd)
    case isFalse hd =>
      have hd : c.documents name = false := Bool.eq_false_iff.2 (hd ∘ hdoc.1)
      obtain ⟨p, i, hf⟩ := Declaration.exists_findParameter? hn
      split
      case isTrue hc =>
        exact insertParameter_eq_error hf hd fun n hm => by simp [Node.isContent, hc n hm]
      case isFalse hc =>
        have hc : ∃ n ∈ c, n.isContent = true := by simpa [Node.isContent] using hc
        obtain ⟨a, ha⟩ := exists_placed d.parameterNames i hc
        exact ⟨p, c.splice a (.ofParameter p), Declaration.find?_of_findParameter? hf,
          insertParameter_eq_ok hf hd ha.anchor?, ha.inserted _⟩

theorem exists_foldlM_insertParameter (hc : ∃ n ∈ c, n.isContent = true) (hn : names.Nodup)
    (hm : ∀ name ∈ names, name ∈ d.parameterNames ∧ c.documents name = false) :
    ∃ e ps, names.foldlM (insertParameter d) c = .ok e ∧ ps.map (·.name) = names ∧
      (∀ p ∈ ps, d.parameters.find? (·.name == p.name) = some p) ∧ Extends ps c e := by
  -- What is documented stays so, and so does the content, hence no later step fails.
  induction names generalizing c with
  | nil => exact ⟨c, [], rfl, rfl, by simp, .refl c⟩
  | cons name names ih =>
    obtain ⟨hd, hdc⟩ := hm name List.mem_cons_self
    obtain ⟨f, hf⟩ := exists_insertParameter hd hdc hc
    obtain ⟨p, rfl, hp, hx⟩ := extends_of_insertParameter hf
    rw [List.nodup_cons] at hn
    obtain ⟨n, hnc, hnx⟩ := hc
    have hm' : ∀ other ∈ names, other ∈ d.parameterNames ∧ f.documents other = false := by
      intro other ho
      obtain ⟨hd, hoc⟩ := hm other (List.mem_cons_of_mem _ ho)
      have hne : p.name ≠ other := fun he => hn.1 (he ▸ ho)
      exact ⟨hd, documents_eq_false_of_insertParameter hf hoc hne⟩
    obtain ⟨e, ps, he, hps, hfirst, hx'⟩ := ih ⟨n, hx.sublist.subset hnc, hnx⟩ hn.2 hm'
    refine ⟨e, p :: ps, ?_, by simp [hps], List.forall_mem_cons.2 ⟨hp, hfirst⟩, hx.trans hx'⟩
    rw [List.foldlM_cons, hf]
    exact he

/-- `e` is `c` with a line for each declared name that `c` does not document, and with nothing else:
of several parameters with one name the line is for the first. -/
structure Completes (d : Declaration) (ps : List Parameter) (c e : Comment) : Prop
    extends Extends ps c e where
  missing : ps.map (·.name) = c.undocumented d
  first : ∀ p ∈ ps, d.parameters.find? (·.name == p.name) = some p
  documents : ∀ name ∈ d.parameterNames, e.documents name = true

theorem Extends.completes (h : Extends ps c e) (hm : ps.map (·.name) = c.undocumented d)
    (hf : ∀ p ∈ ps, d.parameters.find? (·.name == p.name) = some p) : Completes d ps c e where
  toExtends := h
  missing := hm
  first := hf
  documents name hn := by
    rw [documents_iff, h.mem_paramNames, hm, mem_undocumented, ← documents_iff]
    cases c.documents name with
    | true => exact .inl rfl
    | false => exact .inr ⟨hn, rfl⟩

theorem exists_completes (h : (∀ name ∈ d.parameterNames, c.documents name = true) ∨
      ∃ n ∈ c, n.isContent = true) :
    ∃ e ps, c.insertMissing d = .ok e ∧ Completes d ps c e := by
  rcases h with hd | hc
  · have hx : Completes d [] c c :=
      (Extends.refl c).completes (undocumented_eq_nil hd).symm (by simp)
    exact ⟨c, [], insertMissing_of_documents hd, hx⟩
  · obtain ⟨e, ps, he, hm, hf, hx⟩ := exists_foldlM_insertParameter hc
      ((nodup_eraseDups _).filter _) fun _ => mem_undocumented.1
    exact ⟨e, ps, (insertMissing_eq_foldlM d c).trans he, hx.completes hm hf⟩

theorem completes_of_insertMissing (h : c.insertMissing d = .ok e) : ∃ ps, Completes d ps c e := by
  by_cases hn : (∃ name ∈ d.parameterNames, c.documents name = false) ∧
      ∀ n ∈ c, n.isContent = false
  · rw [insertMissing_eq_error hn.1 hn.2] at h
    cases h
  · rw [not_and_or] at hn
    obtain ⟨f, ps, hf, hx⟩ :=
      exists_completes (d := d) (c := c) (hn.imp (by simp) (by simp))
    rw [h] at hf
    cases hf
    exact ⟨ps, hx⟩

/-- Documenting all parameters fails as a whole, on a comment without content, or else leaves
nothing to document and changes nothing when it is done again. -/
theorem insertMissing_completes (d : Declaration) (c : Comment) :
    if (∃ name ∈ d.parameterNames, c.documents name = false) ∧ ∀ n ∈ c, n = .newLine then
      c.insertMissing d = .error .nothingToInsertAfter
    else ∃ e ps, c.insertMissing d = .ok e ∧ Completes d ps c e ∧ e.insertMissing d = .ok e := by
  split
  case isTrue h => exact insertMissing_eq_error h.1 fun n hn => by simp [Node.isContent, h.2 n hn]
  case isFalse h =>
    rw [not_and_or] at h
    obtain ⟨e, ps, he, hx⟩ :=
      exists_completes (d := d) (c := c) (h.imp (by simp) (by simp [Node.isContent]))
    exact ⟨e, ps, he, hx, insertMissing_of_documents hx.documents⟩

end

end Comment

end TripleSlash
