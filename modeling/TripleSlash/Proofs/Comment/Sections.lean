import TripleSlash.Proofs.Comment.Completion
import TripleSlash.Proofs.Comment.Elements

namespace TripleSlash

/-- The place of a kind of element in the order of a comment. Line breaks and other text may stand
anywhere. -/
def Node.Kind.rank? : Kind → Option Nat
  | summary => some 0
  | typeParam => some 1
  | param => some 2
  | returns => some 3
  | exception => some 4
  | newLine | other => none

theorem Node.Kind.two_le_rank (hr : rank? k = some r) (ht : k ≠ .typeParam) (hs : k ≠ .summary) :
    2 ≤ r := by
  cases k with
  | summary => exact (hs rfl).elim
  | typeParam => exact (ht rfl).elim
  | param | returns | exception =>
    cases hr
    decide
  | newLine | other => cases hr

namespace Comment

def ranks (c : Comment) : List Nat := c.filterMap (·.kind.rank?)

/-- The elements stand in their order, and there is no second summary. -/
structure Canonical (c : Comment) : Prop where
  one_summary : c.countP (·.kind == .summary) ≤ 1
  in_order : c.ranks.Pairwise (· ≤ ·)

/-- Some element comes no later than the parameters. -/
def Headed (c : Comment) : Prop := ∃ n ∈ c, n.kind ∈ [.summary, .typeParam, .param]

instance (c : Comment) : Decidable c.Headed := inferInstanceAs (Decidable (∃ n ∈ c, _))

section

variable {c A B : Comment} {n x : Node} {r q : Nat}

@[simp] theorem ranks_append (A B : Comment) : ranks (A ++ B) = ranks A ++ ranks B :=
  List.filterMap_append

@[simp] theorem ranks_newLine_cons (c : Comment) : ranks (.newLine :: c) = ranks c := rfl

theorem ranks_cons (hx : x.kind.rank? = some r) (c : Comment) : ranks (x :: c) = r :: ranks c :=
  List.filterMap_cons_some hx

theorem mem_ranks : r ∈ ranks c ↔ ∃ n ∈ c, n.kind.rank? = some r := List.mem_filterMap

theorem countP_summary (c : Comment) : c.countP (·.kind == .summary) = c.ranks.count 0 := by
  rw [ranks, List.count_filterMap]
  congr 1
  funext n
  cases n <;> rfl

theorem canonical_iff : Canonical c ↔ c.ranks.count 0 ≤ 1 ∧ c.ranks.Pairwise (· ≤ ·) := by
  rw [← countP_summary]
  exact ⟨fun h => ⟨h.one_summary, h.in_order⟩, fun h => ⟨h.1, h.2⟩⟩

instance (c : Comment) : Decidable c.Canonical := decidable_of_iff _ canonical_iff.symm

theorem Canonical.le_rank (h : Canonical (A ++ x :: B)) (hx : x.kind.rank? = some r)
    (hq : q ∈ ranks A) : q ≤ r := by
  have ho := h.in_order
  rw [ranks_append, ranks_cons hx, List.pairwise_append] at ho
  exact ho.2.2 q hq r List.mem_cons_self

theorem Canonical.rank_le (h : Canonical (A ++ x :: B)) (hx : x.kind.rank? = some r)
    (hq : q ∈ ranks B) : r ≤ q := by
  have ho := h.in_order
  rw [ranks_append, ranks_cons hx, List.pairwise_append, List.pairwise_cons] at ho
  exact ho.2.1.1 q hq

/-- A parameter element may stand between what comes up to the parameters and what comes from them
on. -/
theorem Canonical.between (h : Canonical (A ++ B)) (he : Between n A B e) (hn : n.kind = .param)
    (hA : ∀ q ∈ ranks A, q ≤ 2) (hB : ∀ q ∈ ranks B, 2 ≤ q) : Canonical e := by
  have hr : n.kind.rank? = some 2 := congrArg Node.Kind.rank? hn
  have hranks : ranks e = ranks A ++ 2 :: ranks B := by
    cases he with
    | before => simp [ranks_cons hr]
    | after => simp [ranks_cons hr]
  rw [canonical_iff, ranks_append] at h
  rw [canonical_iff, hranks]
  exact ⟨by simpa using h.1, pairwise_append_cons h.2 hA hB⟩

theorem two_le_of_mem_ranks (ht : ∀ n ∈ B, n.kind ≠ .typeParam) (hs : ∀ n ∈ B, n.kind ≠ .summary)
    (hq : q ∈ ranks B) : 2 ≤ q := by
  obtain ⟨n, hn, hr⟩ := mem_ranks.1 hq
  exact Node.Kind.two_le_rank hr (ht n hn) (hs n hn)

theorem Canonical.splice_before (h : Canonical (A ++ x :: B)) (hx : x.kind = .param)
    (hn : n.kind = .param) : Canonical (splice (A ++ x :: B) (.before A.length) n) := by
  have hr : x.kind.rank? = some 2 := congrArg Node.Kind.rank? hx
  refine h.between (between_splice_before A B x n) hn (fun q hq => h.le_rank hr hq) fun q hq => ?_
  rw [ranks_cons hr] at hq
  rcases List.mem_cons.1 hq with rfl | hq
  · exact Nat.le_refl 2
  · exact h.rank_le hr hq

theorem Canonical.splice_after (h : Canonical (A ++ x :: B)) (hn : n.kind = .param)
    (hA : ∀ q ∈ ranks A, q ≤ 2) (hx : ∀ r, x.kind.rank? = some r → r ≤ 2)
    (hB : ∀ q ∈ ranks B, 2 ≤ q) : Canonical (splice (A ++ x :: B) (.after A.length) n) := by
  rw [List.append_cons] at h
  refine h.between (between_splice_after A B x n) hn (fun q hq => ?_) hB
  rw [ranks_append, List.mem_append] at hq
  rcases hq with hq | hq
  · exact hA q hq
  · obtain ⟨m, hm, hr⟩ := mem_ranks.1 hq
    rw [List.mem_singleton.1 hm] at hr
    exact hx q hr

theorem Canonical.splice_after_rank (h : Canonical (A ++ x :: B)) (hn : n.kind = .param)
    (hx : x.kind.rank? = some r) (hr : r ≤ 2) (hB : ∀ q ∈ ranks B, 2 ≤ q) :
    Canonical (splice (A ++ x :: B) (.after A.length) n) := by
  refine h.splice_after hn (fun q hq => Nat.le_trans (h.le_rank hx hq) hr) (fun q hq => ?_) hB
  rw [hx] at hq
  cases hq
  exact hr

theorem Canonical.not_summary_of_typeParam (h : Canonical (A ++ x :: B))
    (hx : x.kind = .typeParam) : ∀ m ∈ B, m.kind ≠ .summary := by
  intro m hm hk
  have hr : x.kind.rank? = some 1 := congrArg Node.Kind.rank? hx
  have hm0 : 0 ∈ ranks B := mem_ranks.2 ⟨m, hm, congrArg Node.Kind.rank? hk⟩
  cases h.rank_le hr hm0

theorem Canonical.not_summary_of_summary (h : Canonical (A ++ x :: B)) (hx : x.kind = .summary) :
    ∀ m ∈ B, m.kind ≠ .summary := by
  have hle := h.one_summary
  rw [List.countP_append, List.countP_cons_of_pos (by simp [hx])] at hle
  have hz : B.countP (·.kind == .summary) = 0 := by omega
  simpa using hz

theorem Canonical.splice_after_content (h : Canonical (A ++ x :: B)) (hn : n.kind = .param)
    (hk : ∀ m ∈ A ++ x :: B, m.kind ≠ .typeParam ∧ m.kind ≠ .summary)
    (hA : ∀ m ∈ A, m.isContent = false) (hp : ∃ m ∈ A ++ x :: B, m.kind = .param) :
    Canonical (splice (A ++ x :: B) (.after A.length) n) := by
  obtain ⟨m, hm, hmp⟩ := hp
  have hr : m.kind.rank? = some 2 := congrArg Node.Kind.rank? hmp
  have hrA : ranks A = [] := by
    rw [ranks, List.filterMap_eq_nil_iff]
    intro y hy
    have hyl : y = .newLine := by simpa [Node.isContent] using hA y hy
    rw [hyl]
    rfl
  refine h.splice_after hn (by simp [hrA]) (fun r hxr => ?_) fun q hq => ?_
  · have hmr : 2 ∈ ranks A ++ ranks (x :: B) := ranks_append A _ ▸ mem_ranks.2 ⟨m, hm, hr⟩
    rw [hrA, List.nil_append, ranks_cons hxr] at hmr
    rcases List.mem_cons.1 hmr with rfl | hmr
    · exact Nat.le_refl 2
    · exact h.rank_le hxr hmr
  · exact two_le_of_mem_ranks (fun y hy => (hk y (by simp [hy])).1)
      (fun y hy => (hk y (by simp [hy])).2) hq

theorem Fallback.canonical (hi : Fallback c i) (h : Canonical c) (hk : Headed c)
    (hn : n.kind = .param) : Canonical (c.splice (.after i) n) := by
  cases hi with
  | @typeParam A B x hx hB =>
    have hr : x.kind.rank? = some 1 := congrArg Node.Kind.rank? hx
    have hs := h.not_summary_of_typeParam hx
    exact h.splice_after_rank hn hr (by decide) fun q hq => two_le_of_mem_ranks hB hs hq
  | @summary A B x ht hx hA =>
    have hr : x.kind.rank? = some 0 := congrArg Node.Kind.rank? hx
    have hs := h.not_summary_of_summary hx
    have ht' : ∀ m ∈ B, m.kind ≠ .typeParam := fun m hm => ht m (by simp [hm])
    exact h.splice_after_rank hn hr (by decide) fun q hq => two_le_of_mem_ranks ht' hs hq
  | content hts hx hA =>
    obtain ⟨m, hm, hmk⟩ := hk
    exact h.splice_after_content hn hts hA ⟨m, hm, by simpa [hts m hm] using hmk⟩

theorem Placed.canonical (ha : Placed declared target c a) (h : Canonical c) (hk : Headed c)
    (hn : n.kind = .param) : Canonical (c.splice a n) := by
  have hparam {x : Node} (hx : x.isNamed = true) : x.kind = .param := by
    by_contra hxk
    rw [Node.not_isNamed_of_kind hxk] at hx
    cases hx
  cases ha with
  | before hA hx => exact h.splice_before (hparam (Node.isNamed_of_isLater hx)) hn
  | @after A x B hl hx hB =>
    have hr : x.kind.rank? = some 2 := congrArg Node.Kind.rank? (hparam hx)
    exact h.splice_after_rank hn hr (Nat.le_refl 2) fun q hq => h.rank_le hr hq
  | first hc hi => exact (fallback?_eq_some_iff.1 hi).canonical h hk hn

theorem Canonical.insertParameter {d : Declaration} (h : Canonical c) (hk : Headed c)
    (hi : c.insertParameter d name = .ok e) : Canonical e ∧ Headed e := by
  obtain ⟨p, i, a, -, -, ha, rfl⟩ := insertParameter_cases hi
  refine ⟨ha.canonical h hk rfl, ?_⟩
  obtain ⟨m, hm, hmk⟩ := hk
  obtain ⟨A, B, rfl, hs, -⟩ := ha.exists_cut (.ofParameter p)
  exact ⟨m, hs.sublist.subset hm, hmk⟩

theorem Canonical.insertMissing {d : Declaration} (h : Canonical c) (hk : Headed c)
    (hi : c.insertMissing d = .ok e) : Canonical e :=
  (insertMissing_induction (P := fun c => Canonical c ∧ Headed c)
    (fun _ _ _ hc hi => hc.1.insertParameter hc.2 hi) ⟨h, hk⟩ hi).1

theorem ranks_trailing (es : List Node) : ranks (trailing es) = ranks es := by
  induction es with
  | nil => rfl
  | cons n es ih =>
    rw [← List.singleton_append, trailing_append, ranks_append, ranks_append, ih]
    rfl

theorem ranks_ofElements (es : List Node) : ranks (ofElements es) = ranks es := by
  cases es with
  | nil => rfl
  | cons n es =>
    rw [ofElements_cons, ← List.singleton_append, ranks_append, ranks_trailing, ← ranks_append]
    rfl

theorem ranks_eq_replicate (hB : ∀ n ∈ B, n.kind = k) (hk : k.rank? = some r) :
    ranks B = List.replicate B.length r := by
  induction B with
  | nil => rfl
  | cons n B ih =>
    rw [List.forall_mem_cons] at hB
    rw [ranks_cons (hB.1 ▸ hk), ih hB.2]
    rfl

end

/-- A summary, then elements of the other kinds in their order. -/
inductive Sectioned : List Node → Prop
  | mk {x : Node} {T P R X : List Node} : x.kind = .summary → (∀ n ∈ T, n.kind = .typeParam) →
      (∀ n ∈ P, n.kind = .param) → (∀ n ∈ R, n.kind = .returns) →
      (∀ n ∈ X, n.kind = .exception) → Sectioned (x :: T ++ P ++ R ++ X)

theorem Sectioned.canonical (h : Sectioned es) : Canonical (ofElements es) := by
  cases h with
  | @mk x T P R X hx hT hP hR hX =>
    have hr : ranks (x :: T ++ P ++ R ++ X) = 0 :: List.replicate T.length 1 ++
        List.replicate P.length 2 ++ List.replicate R.length 3 ++ List.replicate X.length 4 := by
      rw [ranks_append, ranks_append, ranks_append, ranks_cons (congrArg Node.Kind.rank? hx),
        ranks_eq_replicate hT rfl, ranks_eq_replicate hP rfl, ranks_eq_replicate hR rfl,
        ranks_eq_replicate hX rfl]
    rw [canonical_iff, ranks_ofElements, hr]
    constructor
    · simp [List.count_replicate]
    · simp [List.pairwise_append, List.pairwise_replicate, List.mem_replicate]
      grind

end Comment

namespace Declaration

theorem kind_parameterElements (d : Declaration) : ∀ n ∈ d.parameterElements, n.kind = .param := by
  intro n hn
  obtain ⟨p, -, rfl⟩ := List.mem_map.1 hn
  rfl

theorem sectioned_signatureElements (s : Settings) (oracle : Oracle) (d : Declaration)
    (hX : ∀ n ∈ X, n.kind = .exception) : Comment.Sectioned (d.signatureElements s oracle ++ X) :=
  .mk rfl d.kind_typeParameterElements d.kind_parameterElements (d.kind_returnElements s oracle) hX

theorem sectioned_parameterElements (d : Declaration) (content : List Inline)
    (hR : ∀ n ∈ R, n.kind = .returns) :
    Comment.Sectioned (.summary content :: d.parameterElements ++ R) := by
  have h := Comment.Sectioned.mk (x := .summary content) (T := []) (X := []) rfl (by simp)
    d.kind_parameterElements hR (by simp)
  rwa [List.append_nil] at h

theorem sectioned_typeParameterElements (d : Declaration) (content : List Inline) :
    Comment.Sectioned (.summary content :: d.typeParameterElements) := by
  have h := Comment.Sectioned.mk (x := .summary content) (P := []) (R := []) (X := []) rfl
    d.kind_typeParameterElements (by simp) (by simp) (by simp)
  simpa using h

theorem sectioned_summary (content : List Inline) : Comment.Sectioned [.summary content] :=
  .mk (T := []) (P := []) (R := []) (X := []) rfl (by simp) (by simp) (by simp) (by simp)

/-- Whatever the kind of the declaration, its elements stand in their order. -/
theorem sectioned_elements {s : Settings} {oracle : Oracle} {d : Declaration}
    (h : d.elements s oracle = .ok es) : Comment.Sectioned es := by
  cases elementsFor_of_elements h with
  | method => exact d.sectioned_signatureElements s oracle d.kind_thrownElements
  | delegate =>
    have hs := d.sectioned_signatureElements s oracle (X := []) (by simp)
    rwa [List.append_nil] at hs
  | constructor | destructor =>
    have hs (content : List Inline) := d.sectioned_parameterElements content (R := []) (by simp)
    simp only [List.append_nil] at hs
    exact hs _
  | indexer => exact d.sectioned_parameterElements _ (by simp [Node.kind])
  | classType | structType | interfaceType => exact d.sectioned_typeParameterElements _
  | property | event | enumType | field | enumMember => exact sectioned_summary _

end Declaration

namespace Comment

theorem exists_elements_of_assemble {s : Settings} {oracle : Oracle} {d : Declaration}
    (h : assemble s d oracle = .ok e) : ∃ es, Sectioned es ∧ e = ofElements es := by
  cases he : d.elements s oracle with
  | error => simp [assemble, he, Except.map] at h
  | ok es =>
    rw [assemble, he] at h
    cases h
    exact ⟨es, Declaration.sectioned_elements he, rfl⟩

/-- New parameter elements keep the order of the elements in a comment that has a place for them,
and a generated comment is in order. -/
theorem canonical_insert_assemble (s : Settings) (oracle : Oracle) (d : Declaration) (c : Comment) :
    (Canonical c → Headed c →
      (∀ name e, c.insertParameter d name = .ok e → Canonical e) ∧
        ∀ e, c.insertMissing d = .ok e → Canonical e) ∧
      ∀ e, assemble s d oracle = .ok e → Canonical e := by
  refine ⟨fun hc hk => ⟨fun _ _ hi => (hc.insertParameter hk hi).1, fun _ => hc.insertMissing hk⟩,
    fun e he => ?_⟩
  obtain ⟨es, hs, rfl⟩ := exists_elements_of_assemble he
  exact hs.canonical

/-- A comment without a summary, its parameter element unnamed and other text around it. -/
theorem canonical_insert_assemble_copy :
    let d : Declaration :=
      { kind := .method, name := "Copy", typeParameters := ["TItem"]
        parameters := [⟨"source", .named "Path"⟩, ⟨"target", .named "Path"⟩]
        returnType := some (.keyword "int") }
    let c : Comment := [.other "<remarks/>", .newLine, .param none [], .newLine, .other "<para/>",
      .newLine, .returns [], .newLine, .exception "IOException" []]
    Canonical c ∧ Headed c ∧ (∃ e, c.insertParameter d "target" = .ok e ∧ Canonical e) ∧
      (∃ e, c.insertMissing d = .ok e ∧ Canonical e) ∧
      ∃ e, assemble {} d = .ok e ∧ Canonical e := by
  intro d c
  have hc : Canonical c := by decide
  have hk : Headed c := by decide
  obtain ⟨hinsert, hassemble⟩ := canonical_insert_assemble {} (Settings.oracle {}) d c
  obtain ⟨hone, hall⟩ := hinsert hc hk
  exact ⟨hc, hk, ⟨_, rfl, hone "target" _ rfl⟩, ⟨_, rfl, hall _ rfl⟩, _, rfl, hassemble _ rfl⟩

end Comment

end TripleSlash
