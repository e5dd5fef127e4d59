import TripleSlash.Proofs.Comment.Escaping

namespace TripleSlash.Markup

/-- Reads the text from left to right, each entity as its character; `skip` characters of the last
entity are still to be passed over. -/
def decodeFrom (quoted : Bool) : Nat → List Char → List Char
  | _, [] => []
  | skip + 1, _ :: cs => decodeFrom quoted skip cs
  | 0, c :: cs =>
    match (entities quoted).find? fun e => e.2.isPrefixOf (c :: cs) with
    | some e => e.1 :: decodeFrom quoted (e.2.length - 1) cs
    | none => c :: decodeFrom quoted 0 cs

def decode (quoted : Bool) (s : String) : String := String.ofList (decodeFrom quoted 0 s.toList)

theorem decodeFrom_length_append (quoted : Bool) (cs ds : List Char) :
    decodeFrom quoted cs.length (cs ++ ds) = decodeFrom quoted 0 ds := by
  induction cs with
  | nil => rfl
  | cons c cs ih => exact ih

theorem code_of_mem_entities (h : e ∈ entities quoted) : code quoted e.1 = e.2 := by
  have he : ∀ e ∈ entities quoted, code quoted e.1 = e.2 := by cases quoted <;> decide
  exact he e h

theorem exists_entity_eq_cons (h : e ∈ entities quoted) : ∃ cs, e.2 = '&' :: cs ∧ '&' ∉ cs := by
  have hs : ∀ e ∈ entities quoted, e.2 = '&' :: e.2.tail ∧ '&' ∉ e.2.tail := by
    cases quoted <;> decide
  exact ⟨e.2.tail, hs e h⟩

/-- Only the entity of a character starts what is written for the character. -/
theorem eq_of_entity_prefix (h : e ∈ entities quoted) (hp : e.2 <+: code quoted c ++ cs) :
    e.1 = c := by
  rw [← code_of_mem_entities h] at hp
  rcases List.prefix_or_prefix_of_prefix hp (List.prefix_append (code quoted c) cs) with hp | hp
  · exact eq_of_code_prefix_code hp
  · exact (eq_of_code_prefix_code hp).symm

theorem decodeFrom_code (c : Char) (cs : List Char) :
    decodeFrom quoted 0 (code quoted c ++ cs) = c :: decodeFrom quoted 0 cs := by
  cases hf : (entities quoted).find? fun e => e.2.isPrefixOf (code quoted c ++ cs) with
  | none =>
    rcases code_cases quoted c with hc | ⟨hc, -⟩
    · have hp := List.find?_eq_none.1 hf _ hc
      simp at hp
    · rw [hc, List.singleton_append] at hf ⊢
      rw [decodeFrom, hf]
  | some e =>
    have he := List.mem_of_find?_eq_some hf
    have hp : e.2 <+: code quoted c ++ cs := by simpa using List.find?_some hf
    obtain rfl := eq_of_entity_prefix he hp
    obtain ⟨ds, hd, -⟩ := exists_entity_eq_cons he
    rw [code_of_mem_entities he, hd, List.cons_append] at hf ⊢
    rw [decodeFrom, hf]
    change e.1 :: decodeFrom quoted (e.2.length - 1) (ds ++ cs) = _
    rw [hd]
    exact congrArg (e.1 :: ·) (decodeFrom_length_append quoted ds cs)

theorem decodeFrom_flatMap_code (cs : List Char) :
    decodeFrom quoted 0 (cs.flatMap (code quoted)) = cs := by
  induction cs with
  | nil => rfl
  | cons c cs ih => rw [List.flatMap_cons, decodeFrom_code, ih]

theorem eq_nil_of_code_eq (h : code quoted c = A ++ '&' :: cs) :
    A = [] ∧ (c, code quoted c) ∈ entities quoted := by
  have ha : '&' ∈ special quoted := by cases quoted <;> decide
  rcases code_cases quoted c with hc | ⟨hc, hn⟩
  · refine ⟨?_, hc⟩
    obtain ⟨ds, hd, hds⟩ := exists_entity_eq_cons hc
    cases A with
    | nil => rfl
    | cons x xs =>
      have ht : '&' :: ds = x :: (xs ++ '&' :: cs) := hd.symm.trans h
      rw [(List.cons.inj ht).2] at hds
      simp at hds
  · rw [hc] at h
    cases A with
    | nil =>
      rw [(List.cons.inj h).1] at hn
      exact (hn ha).elim
    | cons x xs => simp at h

theorem exists_entity_prefix {cs : List Char} (h : cs.flatMap (code quoted) = A ++ '&' :: ds) :
    ∃ e ∈ entities quoted, e.2 <+: '&' :: ds := by
  induction cs generalizing A with
  | nil => simp at h
  | cons c cs ih =>
    rw [List.flatMap_cons] at h
    rcases List.append_eq_append_iff.1 h with ⟨bs, hA, hcs⟩ | ⟨as, hc, hds⟩
    · exact ih hcs
    · cases as with
      | nil =>
        have hcs : cs.flatMap (code quoted) = [] ++ '&' :: ds := hds.symm
        exact ih hcs
      | cons x xs =>
        rw [List.cons_append] at hds
        obtain ⟨rfl, rfl⟩ := List.cons.inj hds
        obtain ⟨rfl, he⟩ := eq_nil_of_code_eq hc
        refine ⟨_, he, ?_⟩
        rw [hc]
        exact List.prefix_append ('&' :: xs) (cs.flatMap (code quoted))

/-- Whether the writing is a faithful encoding: each character is written by itself, special
characters appear only as entities, and reading gives back what was written. -/
structure IsEncoding (quoted : Bool) (write : String → String) : Prop where
  toList_eq : ∀ s, (write s).toList = s.toList.flatMap (code quoted)
  notMem : ∀ s, ∀ x ∈ special quoted, x ≠ '&' → x ∉ (write s).toList
  begins : ∀ s A cs, (write s).toList = A ++ '&' :: cs → ∃ e ∈ entities quoted, e.2 <+: '&' :: cs
  append : ∀ s t, write (s ++ t) = write s ++ write t
  decode_eq : ∀ s, decode quoted (write s) = s

theorem isEncoding_of_toList_eq
    (h : ∀ s : String, (write s).toList = s.toList.flatMap (code quoted)) :
    IsEncoding quoted write := by
  constructor
  case toList_eq => exact h
  case notMem =>
    intro s x hx ha
    rw [h]
    exact notMem_flatMap_code hx ha s.toList
  case begins =>
    intro s A cs hs
    rw [h] at hs
    exact exists_entity_prefix hs
  case append =>
    intro s t
    rw [← String.toList_inj, String.toList_append, h, h, h, String.toList_append,
      List.flatMap_append]
  case decode_eq =>
    intro s
    rw [decode, h, decodeFrom_flatMap_code, String.ofList_toList]

/-- Writing text or an attribute is a faithful encoding, also of text that has entities already. -/
theorem isEncoding_escape : IsEncoding true escapeAttribute ∧ IsEncoding false escapeText :=
  ⟨isEncoding_of_toList_eq toList_escapeAttribute, isEncoding_of_toList_eq toList_escapeText⟩

example : escapeAttribute "\"&lt;\"" = "&quot;&amp;lt;&quot;" := by decide

end TripleSlash.Markup
