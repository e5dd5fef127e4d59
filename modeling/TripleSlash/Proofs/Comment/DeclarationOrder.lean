import TripleSlash.Proofs.Comment.Coverage

namespace TripleSlash

theorem idxOf?_eq_some_iff_idxOf {l : List String} :
    l.idxOf? name = some i ↔ name ∈ l ∧ l.idxOf name = i := by
  constructor
  · intro h
    refine ⟨?_, by rw [List.idxOf_eq_getD_idxOf?, h, Option.getD_some]⟩
    by_contra hn
    rw [List.idxOf?_eq_none_iff.2 hn] at h
    cases h
  · rintro ⟨hn, rfl⟩
    cases h : l.idxOf? name with
    | none => exact (List.idxOf?_eq_none_iff.1 h hn).elim
    | some i => rw [List.idxOf_eq_getD_idxOf?, h, Option.getD_some]

theorem Node.isLater_iff {declared : List String} :
    isLater declared target n = true ↔
      ∃ name ∈ declared, n.paramName? = some name ∧ target < declared.idxOf name := by
  simp only [isLater, Option.any_eq_true, decide_eq_true_eq, idxOf?_eq_some_iff_idxOf]
  constructor
  · rintro ⟨name, hn, i, ⟨hd, rfl⟩, ht⟩
    exact ⟨name, hd, hn, ht⟩
  · rintro ⟨name, hd, hn, ht⟩
    exact ⟨name, hn, _, ⟨hd, rfl⟩, ht⟩

namespace Comment

/-- The declared names of the parameter elements, in the order of the comment. -/
def declaredNames (d : Declaration) (c : Comment) : List String :=
  c.paramNames.filter (d.parameterNames.contains ·)

/-- The declared names stand in the order of declaration, none of them twice. -/
def InDeclarationOrder (d : Declaration) (c : Comment) : Prop :=
  (c.declaredNames d).Pairwise fun a b => d.parameterNames.idxOf a < d.parameterNames.idxOf b

instance : Decidable (InDeclarationOrder d c) := inferInstanceAs (Decidable (List.Pairwise _ _))

section

variable {d : Declaration} {c e A B : Comment} {name other : String}

theorem declaredNames_append (d : Declaration) (A B : Comment) :
    declaredNames d (A ++ B) = declaredNames d A ++ declaredNames d B := by
  simp [declaredNames]

theorem mem_declaredNames :
    name ∈ c.declaredNames d ↔ name ∈ d.parameterNames ∧ ∃ n ∈ c, n.paramName? = some name := by
  simp [declaredNames, paramNames, and_comm]

theorem Between.declaredNames (h : Between (.ofParameter p) A B e)
    (hp : p.name ∈ d.parameterNames) :
    e.declaredNames d = A.declaredNames d ++ p.name :: B.declaredNames d := by
  cases h with
  | before => simp [Comment.declaredNames, hp]
  | after => simp [Comment.declaredNames, hp]

theorem idxOf_lt_of_not_isLater (hn : name ∈ d.parameterNames) (hd : A.documents name = false)
    (hA : ∀ m ∈ A, m.isLater d.parameterNames (d.parameterNames.idxOf name) = false)
    (ho : other ∈ A.declaredNames d) :
    d.parameterNames.idxOf other < d.parameterNames.idxOf name := by
  obtain ⟨hod, m, hm, hmo⟩ := mem_declaredNames.1 ho
  have hle : ¬d.parameterNames.idxOf name < d.parameterNames.idxOf other := by
    intro hlt
    have hl := hA m hm
    rw [Node.isLater_iff.2 ⟨other, hod, hmo, hlt⟩] at hl
    cases hl
  have hne : d.parameterNames.idxOf other ≠ d.parameterNames.idxOf name := by
    intro he
    obtain rfl := (List.idxOf_inj hod).1 he
    have hdo : A.documents other = true := documents_iff.2 (List.mem_filterMap.2 ⟨m, hm, hmo⟩)
    rw [hd] at hdo
    cases hdo
  omega

theorem lt_idxOf_of_isLater (hx : x.isLater d.parameterNames target = true)
    (hB : InDeclarationOrder d (x :: B)) (ho : other ∈ declaredNames d (x :: B)) :
    target < d.parameterNames.idxOf other := by
  obtain ⟨name, hn, hxn, hlt⟩ := Node.isLater_iff.1 hx
  have hd : declaredNames d (x :: B) = name :: declaredNames d B := by
    simp [declaredNames, paramNames, hxn, hn]
  rw [InDeclarationOrder, hd, List.pairwise_cons] at hB
  rw [hd] at ho
  rcases List.mem_cons.1 ho with rfl | ho
  · exact hlt
  · exact Nat.lt_trans hlt (hB.1 other ho)

theorem InDeclarationOrder.insertParameter (h : InDeclarationOrder d c)
    (hi : c.insertParameter d name = .ok e) : InDeclarationOrder d e := by
  obtain ⟨p, i, a, hf, hd, ha, rfl⟩ := insertParameter_cases hi
  obtain ⟨hp, rfl, hidx⟩ := Declaration.findParameter?_eq_some hf
  have hn : p.name ∈ d.parameterNames := List.mem_map_of_mem (List.mem_of_getElem? hp)
  obtain ⟨-, rfl⟩ := idxOf?_eq_some_iff_idxOf.1 hidx
  obtain ⟨A, B, rfl, hs, hA, hB⟩ := ha.exists_cut (.ofParameter p)
  rw [documents_append, Bool.or_eq_false_iff] at hd
  rw [InDeclarationOrder, declaredNames_append] at h
  rw [InDeclarationOrder, hs.declaredNames hn]
  apply pairwise_append_cons h
  · exact fun other ho => idxOf_lt_of_not_isLater hn hd.1 hA ho
  · intro other ho
    rcases hB with hB | ⟨x, C, rfl, hx⟩
    · obtain ⟨-, m, hm, hmo⟩ := mem_declaredNames.1 ho
      have hmn := hB m hm
      rw [Node.isNamed, hmo] at hmn
      cases hmn
    · exact lt_idxOf_of_isLater hx (List.pairwise_append.1 h).2.1 ho

theorem InDeclarationOrder.insertMissing (h : InDeclarationOrder d c)
    (hi : c.insertMissing d = .ok e) : InDeclarationOrder d e :=
  insertMissing_induction (fun _ _ _ h hi => h.insertParameter hi) h hi

theorem InDeclarationOrder.declaredNames_eq (h : InDeclarationOrder d c)
    (hd : ∀ name ∈ d.parameterNames, c.documents name = true) :
    c.declaredNames d = d.parameterNames.eraseDups := by
  have hn : (c.declaredNames d).Nodup := h.imp fun hab he => by simp [he] at hab
  have hp : (c.declaredNames d).Perm d.parameterNames.eraseDups := by
    rw [List.perm_ext_iff_of_nodup hn (nodup_eraseDups _)]
    intro name
    rw [List.mem_eraseDups, declaredNames, List.mem_filter, List.contains_iff_mem,
      and_iff_right_iff_imp]
    exact fun hm => documents_iff.1 (hd name hm)
  refine hp.eq_of_pairwise (fun a b _ _ hab hba => ?_) h (pairwise_idxOf_eraseDups _)
  omega

/-- Documenting a parameter keeps the order of declaration, and documenting all of them leaves each
declared name once. -/
theorem inDeclarationOrder_insert (h : InDeclarationOrder d c) :
    (∀ name e, c.insertParameter d name = .ok e → InDeclarationOrder d e) ∧
      ∀ e, c.insertMissing d = .ok e → e.declaredNames d = d.parameterNames.eraseDups := by
  refine ⟨fun _ _ hi => h.insertParameter hi, fun e hi => ?_⟩
  obtain ⟨ps, hx⟩ := completes_of_insertMissing hi
  exact (h.insertMissing hi).declaredNames_eq hx.documents

/-- One name is declared twice, and an unknown name and none at all stand around the only declared
name that is documented. -/
theorem inDeclarationOrder_insert_copy :
    let d : Declaration :=
      { kind := .method, name := "Copy"
        parameters := [⟨"source", .named "Path"⟩, ⟨"target", .named "Path"⟩,
          ⟨"source", .keyword "string"⟩, ⟨"overwrite", .keyword "bool"⟩] }
    let c : Comment := [.param (some "mode") [], .newLine, .param (some "target") [], .newLine,
      .param none [], .newLine, .returns []]
    InDeclarationOrder d c ∧
      (∃ e, c.insertParameter d "overwrite" = .ok e ∧ InDeclarationOrder d e) ∧
      ∃ e, c.insertMissing d = .ok e ∧ e.declaredNames d = ["source", "target", "overwrite"] := by
  intro d c
  have hc : InDeclarationOrder d c := by decide
  obtain ⟨hone, hall⟩ := inDeclarationOrder_insert hc
  exact ⟨hc, ⟨_, rfl, hone "overwrite" _ rfl⟩, _, rfl, hall _ rfl⟩

end

end Comment

end TripleSlash
