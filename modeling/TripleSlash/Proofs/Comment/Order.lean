import TripleSlash.Proofs.Comment.Insertion

namespace TripleSlash

namespace Comment

/-- Puts a parameter element among the parameter elements of what follows the place of the first
one: before the first node that is declared later, else after the last named one. -/
def put (declared : List String) (target : Nat) (n : Node) : Comment → Comment
  | [] => [.newLine, n]
  | x :: c =>
    if (x :: c).any Node.isNamed then
      if x.isLater declared target then n :: .newLine :: x :: c else x :: put declared target n c
    else .newLine :: n :: x :: c

section

variable {declared : List String} {i j target : Nat} {n p q x : Node} {c A B : Comment}

theorem put_of_not_named (h : ∀ m ∈ c, m.isNamed = false) :
    put declared target n c = .newLine :: n :: c := by
  cases c with
  | nil => rfl
  | cons x c =>
    have hn : (x :: c).any Node.isNamed = false := List.any_eq_false.2 (by simpa using h)
    simp only [put, hn]
    rfl

theorem put_cons_of_isLater (h : x.isLater declared target = true) :
    put declared target n (x :: c) = n :: .newLine :: x :: c := by
  have hn : (x :: c).any Node.isNamed = true := by simp [Node.isNamed_of_isLater h]
  simp only [put, hn, h, ↓reduceIte]

theorem put_cons (hc : (x :: c).any Node.isNamed = true) (hx : x.isLater declared target = false) :
    put declared target n (x :: c) = x :: put declared target n c := by
  simp only [put, hc, hx, ↓reduceIte]
  rfl

theorem any_isNamed_put (hn : n.isNamed = true) (c : Comment) :
    (put declared target n c).any Node.isNamed = true := by
  induction c with
  | nil => simp [put, hn]
  | cons x c ih =>
    by_cases hc : (x :: c).any Node.isNamed = true
    · cases hx : x.isLater declared target with
      | true => simp [put_cons_of_isLater hx, hn]
      | false => simp [put_cons hc hx, ih]
    · simp [put, hc, hn]

theorem put_append (hA : ∀ m ∈ A, m.isLater declared target = false)
    (hB : B.any Node.isNamed = true) :
    put declared target n (A ++ B) = A ++ put declared target n B := by
  induction A with
  | nil => rfl
  | cons x A ih =>
    have hc : (x :: (A ++ B)).any Node.isNamed = true := by simp [hB]
    rw [List.cons_append, put_cons hc (hA x List.mem_cons_self),
      ih fun m hm => hA m (List.mem_cons_of_mem x hm)]
    rfl

theorem put_newLine_cons (hc : c.any Node.isNamed = true) :
    put declared target n (.newLine :: c) = .newLine :: put declared target n c :=
  put_cons (by simpa using hc) rfl

theorem put_comm_of_not_named (hp : p.isNamed = true) (hpj : p.isLater declared j = false)
    (hqi : q.isLater declared i = true) (hc : ∀ m ∈ c, m.isNamed = false) :
    put declared j q (put declared i p c) = put declared i p (put declared j q c) := by
  have hq : q.isNamed = true := Node.isNamed_of_isLater hqi
  calc
    put declared j q (put declared i p c) = put declared j q (.newLine :: p :: c) := by
      rw [put_of_not_named hc]
    _ = .newLine :: p :: .newLine :: q :: c := by
      rw [put_newLine_cons (by simp [hp]), put_cons (by simp [hp]) hpj, put_of_not_named hc]
    _ = put declared i p (.newLine :: q :: c) := by
      rw [put_newLine_cons (by simp [hq]), put_cons_of_isLater hqi]
    _ = put declared i p (put declared j q c) := by rw [put_of_not_named hc]

/-- Two new elements end up in the same order whichever is put first. -/
theorem put_comm (hij : i ≤ j) (hp : p.isNamed = true) (hpj : p.isLater declared j = false)
    (hqi : q.isLater declared i = true) (c : Comment) :
    put declared j q (put declared i p c) = put declared i p (put declared j q c) := by
  induction c with
  | nil => exact put_comm_of_not_named hp hpj hqi (by simp)
  | cons x c ih =>
    by_cases hc : (x :: c).any Node.isNamed = true
    · cases hxi : x.isLater declared i with
      | true =>
        have hx : x.isNamed = true := Node.isNamed_of_isLater hxi
        rw [put_cons_of_isLater hxi, put_cons (by simp [hp]) hpj, put_newLine_cons hc]
        cases hxj : x.isLater declared j with
        | true => rw [put_cons_of_isLater hxj, put_cons_of_isLater hqi]
        | false => rw [put_cons hc hxj, put_cons_of_isLater hxi]
      | false =>
        have hxj : x.isLater declared j = false := by
          by_contra hxj
          rw [Node.isLater_mono hij (Bool.of_not_eq_false hxj)] at hxi
          cases hxi
        have hq : q.isNamed = true := Node.isNamed_of_isLater hqi
        rw [put_cons hc hxi, put_cons hc hxj, put_cons (by simp [any_isNamed_put hp]) hxj,
          put_cons (by simp [any_isNamed_put hq]) hxi, ih]
    · exact put_comm_of_not_named hp hpj hqi (by simpa using hc)

theorem Placed.splice_eq_put (h : Placed declared target c a) (hc : c.any Node.isNamed = true)
    (n : Node) : c.splice a n = put declared target n c := by
  cases h with
  | @before A x B hA hx =>
    have hn : x.isNamed = true := Node.isNamed_of_isLater hx
    rw [splice_before, put_append hA (by simp [hn]), put_cons_of_isLater hx]
  | @after A x B hl hx hB =>
    have hA : ∀ m ∈ A, m.isLater declared target = false := fun m hm =>
      hl m (List.mem_append_left _ hm)
    have hxl : x.isLater declared target = false := hl x (by simp)
    rw [splice_after, put_append hA (by simp [hx]), put_cons (by simp [hx]) hxl,
      put_of_not_named hB]
  | first hn hi =>
    obtain ⟨m, hm, hx⟩ := List.any_eq_true.1 hc
    rw [hn m hm] at hx
    cases hx

theorem exists_splice_eq_put (h : ∃ m ∈ c, m.isContent = true) :
    ∃ A B : Comment, (∀ m ∈ A, m.isNamed = false) ∧ ∀ declared target, ∃ a,
      c.anchor? declared target = some a ∧ ∀ n, c.splice a n = A ++ put declared target n B := by
  by_cases hc : c.any Node.isNamed = true
  · refine ⟨[], c, by simp, fun declared target => ?_⟩
    obtain ⟨a, ha⟩ := exists_placed declared target h
    exact ⟨a, ha.anchor?, ha.splice_eq_put hc⟩
  · have hn : ∀ m ∈ c, m.isNamed = false := by simpa using hc
    cases hf : fallback? c with
    | none =>
      obtain ⟨m, hm, hx⟩ := h
      rw [fallback?_eq_none_iff.1 hf m hm] at hx
      cases hx
    | some i =>
      refine ⟨c.take (i + 1), c.drop (i + 1), fun m hm => hn m (List.mem_of_mem_take hm),
        fun declared target => ⟨.after i, (Placed.first hn hf).anchor?, fun n => ?_⟩⟩
      rw [put_of_not_named fun m hm => hn m (List.mem_of_mem_drop hm)]
      simp [splice, insertAt]

end

section

variable {d : Declaration} {c : Comment} {name other : String} {names others : List String}

theorem insertParameter_bind {A B : Comment} (hf : d.findParameter? name = some (p, i))
    (hg : d.findParameter? other = some (q, j)) (hd : c.documents name = false)
    (he : c.documents other = false) (hne : name ≠ other) (hA : ∀ m ∈ A, m.isNamed = false)
    (hAB : ∀ declared target, ∃ a, c.anchor? declared target = some a ∧
      ∀ n, c.splice a n = A ++ put declared target n B) :
    (c.insertParameter d name >>= (·.insertParameter d other)) =
      .ok (A ++ put d.parameterNames j (.ofParameter q)
        (put d.parameterNames i (.ofParameter p) B)) := by
  obtain ⟨a, ha, hs⟩ := hAB d.parameterNames i
  have hok := insertParameter_eq_ok hf hd ha
  have he' : documents (A ++ put d.parameterNames i (.ofParameter p) B) other = false := by
    rw [← hs, documents_insertParameter hok, he, Bool.false_or, beq_eq_false_iff_ne]
    exact hne
  have hn : (put d.parameterNames i (.ofParameter p) B).any Node.isNamed = true :=
    any_isNamed_put rfl B
  have hn' : (A ++ put d.parameterNames i (.ofParameter p) B).any Node.isNamed = true := by
    simp [hn]
  obtain ⟨m, hm, hx⟩ := List.any_eq_true.1 hn'
  obtain ⟨b, hb⟩ := exists_placed d.parameterNames j
    ⟨m, hm, Node.isContent_of_isNamed hx⟩
  rw [hok, hs]
  change insertParameter d _ other = _
  rw [insertParameter_eq_ok hg he' hb.anchor?, hb.splice_eq_put hn',
    put_append (fun m hm => Node.not_isLater_of_not_isNamed (hA m hm)) hn]

theorem insertParameter_comm_of_lt (hf : d.findParameter? name = some (p, i))
    (hg : d.findParameter? other = some (q, j)) (hij : i < j) (hd : c.documents name = false)
    (he : c.documents other = false) (hne : name ≠ other) :
    (c.insertParameter d name >>= (·.insertParameter d other)) =
      (c.insertParameter d other >>= (·.insertParameter d name)) := by
  by_cases hc : ∃ m ∈ c, m.isContent = true
  · obtain ⟨A, B, hA, hAB⟩ := exists_splice_eq_put hc
    obtain ⟨-, rfl, hi⟩ := Declaration.findParameter?_eq_some hf
    obtain ⟨-, rfl, hj⟩ := Declaration.findParameter?_eq_some hg
    rw [insertParameter_bind hf hg hd he hne hA hAB,
      insertParameter_bind hg hf he hd hne.symm hA hAB, put_comm (Nat.le_of_lt hij) rfl]
    · simp [Node.isLater_ofParameter hi, Nat.le_of_lt hij]
    · simp [Node.isLater_ofParameter hj, hij]
  · have hc' : ∀ m ∈ c, m.isContent = false := by simpa using hc
    rw [insertParameter_eq_error hf hd hc', insertParameter_eq_error hg he hc']
    rfl

/-- Two parameters may be documented in either order. -/
theorem insertParameter_comm (hn : name ∈ d.parameterNames) (ho : other ∈ d.parameterNames)
    (hd : c.documents name = false) (he : c.documents other = false) (hne : name ≠ other) :
    (c.insertParameter d name >>= (·.insertParameter d other)) =
      (c.insertParameter d other >>= (·.insertParameter d name)) := by
  obtain ⟨p, i, hf⟩ := Declaration.exists_findParameter? hn
  obtain ⟨q, j, hg⟩ := Declaration.exists_findParameter? ho
  rcases Nat.lt_trichotomy i j with hij | hij | hij
  · exact insertParameter_comm_of_lt hf hg hij hd he hne
  · obtain ⟨hp, hpn, -⟩ := Declaration.findParameter?_eq_some hf
    obtain ⟨hq, hqn, -⟩ := Declaration.findParameter?_eq_some hg
    rw [hij, hq] at hp
    cases hp
    exact (hne (hpn.symm.trans hqn)).elim
  · exact (insertParameter_comm_of_lt hg hf hij he hd hne.symm).symm

theorem documents_eq_false_of_insertParameter {e : Comment} (h : c.insertParameter d name = .ok e)
    (ho : c.documents other = false) (hne : name ≠ other) : e.documents other = false := by
  rw [documents_insertParameter h, ho, Bool.false_or, beq_eq_false_iff_ne]
  exact hne

theorem foldlM_insertParameter_perm (hp : names.Perm others) (hn : names.Nodup)
    (hm : ∀ name ∈ names, name ∈ d.parameterNames ∧ c.documents name = false) :
    names.foldlM (insertParameter d) c = others.foldlM (insertParameter d) c := by
  induction hp generalizing c with
  | nil => rfl
  | @cons name names others hp ih =>
    rw [List.nodup_cons] at hn
    rw [List.foldlM_cons, List.foldlM_cons]
    cases h : c.insertParameter d name with
    | error => rfl
    | ok e =>
      apply ih hn.2
      intro other ho
      obtain ⟨hd, hc⟩ := hm other (List.mem_cons_of_mem name ho)
      have hne : name ≠ other := fun he => hn.1 (he ▸ ho)
      exact ⟨hd, documents_eq_false_of_insertParameter h hc hne⟩
  | swap name other names =>
    obtain ⟨ho, hoc⟩ := hm other List.mem_cons_self
    obtain ⟨hd, hdc⟩ := hm name (by simp)
    have hne : other ≠ name := fun he => (List.nodup_cons.1 hn).1 (by simp [he])
    simp only [List.foldlM_cons, ← bind_assoc]
    rw [insertParameter_comm ho hd hoc hdc hne]
  | trans hp _ ih ih' =>
    rw [ih hn hm]
    exact ih' (hp.nodup_iff.1 hn) fun name ho => hm name (hp.mem_iff.2 ho)

theorem foldlM_insertParameter_eq {ps : List Parameter} (hs : ps ⊆ d.parameters)
    (hn : names.Nodup)
    (hm : ∀ name, name ∈ names ↔ name ∈ ps.map (·.name) ∧ c.documents name = false) :
    names.foldlM (insertParameter d) c =
      ps.foldlM
        (fun c p => if c.documents p.name then .ok c else c.insertParameter d p.name) c := by
  induction ps generalizing c names with
  | nil =>
    have he : names = [] := List.eq_nil_iff_forall_not_mem.2 (by simp [hm])
    rw [he]
    rfl
  | cons p ps ih =>
    have hs' : ps ⊆ d.parameters := fun q hq => hs (List.mem_cons_of_mem p hq)
    rw [List.foldlM_cons]
    by_cases hc : c.documents p.name = true
    · rw [if_pos hc]
      apply ih hs' hn
      intro name
      rw [hm, List.map_cons, List.mem_cons]
      constructor
      · rintro ⟨rfl | hp, hd⟩
        · rw [hc] at hd
          cases hd
        · exact ⟨hp, hd⟩
      · exact fun h => ⟨.inr h.1, h.2⟩
    · rw [if_neg hc]
      have hp : p.name ∈ names := (hm _).2 ⟨by simp, by simpa using hc⟩
      have hd : ∀ name ∈ names, name ∈ d.parameterNames ∧ c.documents name = false :=
        fun name hn => ⟨List.map_subset _ hs ((hm name).1 hn).1, ((hm name).1 hn).2⟩
      rw [foldlM_insertParameter_perm (List.perm_cons_erase hp) hn hd, List.foldlM_cons]
      cases h : c.insertParameter d p.name with
      | error => rfl
      | ok e =>
        apply ih hs' (hn.erase _)
        intro name
        rw [hn.mem_erase_iff, hm, documents_insertParameter h, List.map_cons, List.mem_cons,
          Bool.or_eq_false_iff, beq_eq_false_iff_ne]
        constructor
        · rintro ⟨hne, he | hps, hd⟩
          · exact (hne he).elim
          · exact ⟨hps, hd, hne.symm⟩
        · exact fun ⟨hps, hd, hne⟩ => ⟨hne.symm, .inr hps, hd⟩

/-- The parameters that a comment does not document yet may be documented in any order. -/
theorem foldlM_insertParameter_eq_insertMissing (d : Declaration) (c : Comment)
    (hn : names.Nodup)
    (hm : ∀ name, name ∈ names ↔ name ∈ d.parameterNames ∧ c.documents name = false) :
    names.foldlM (fun c name => c.insertParameter d name) c = c.insertMissing d :=
  foldlM_insertParameter_eq (List.Subset.refl _) hn hm

/-- Of four declared parameters, one of them declared twice, only the second is documented. -/
theorem foldlM_insertParameter_copy :
    let d : Declaration :=
      { kind := .method, name := "Copy"
        parameters := [⟨"source", .named "Path"⟩, ⟨"target", .named "Path"⟩,
          ⟨"source", .keyword "string"⟩, ⟨"overwrite", .keyword "bool"⟩] }
    let c : Comment := [.other "<remarks/>", .newLine, .param (some "target") [], .newLine,
      .param none [], .newLine, .returns []]
    ["overwrite", "source"].foldlM (fun c name => c.insertParameter d name) c =
      c.insertMissing d := by
  intro d c
  refine foldlM_insertParameter_eq_insertMissing d c (by decide) fun name => ?_
  have hd : d.parameterNames = ["source", "target", "source", "overwrite"] := rfl
  have hc : c.documents name = ("target" == name) := by
    simp [c, documents, Node.paramName?]
  rw [hd, hc, beq_eq_false_iff_ne]
  constructor
  · intro h
    rcases List.mem_pair.1 h with rfl | rfl <;> decide
  · rintro ⟨h, hne⟩
    simp only [List.mem_cons, List.not_mem_nil, or_false, hne.symm, false_or] at h ⊢
    exact h.elim .inr fun h => h.symm

end

end Comment

end TripleSlash
