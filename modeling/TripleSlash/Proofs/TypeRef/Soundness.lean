import TripleSlash.Proofs.TypeRef.Spelling

namespace TripleSlash.TypeRef

open Token

/-- What a reader takes off the tokens is related to what it makes of it. -/
def Sound (P : α → List Token → Prop) (r : Reader α) : Prop :=
  ∀ ts a rest, r ts = some (a, rest) → ∃ us, ts = us ++ rest ∧ P a us

theorem Sound.separated {item : Reader α} (h : Sound P item) (sep : Token) (n : Nat) :
    Sound (Joined P sep) (separated sep item n) := by
  induction n with
  | zero => exact fun ts as rest hr => by cases hr
  | succ n ih =>
    intro ts as rest hr
    rw [TypeRef.separated] at hr
    split at hr
    case h_1 => cases hr
    case h_2 a ts' hi =>
      obtain ⟨us, rfl, hp⟩ := h _ _ _ hi
      split at hr
      case isTrue hs =>
        obtain ⟨⟨bs, rest'⟩, hb, he⟩ := Option.map_eq_some_iff.1 hr
        cases he
        obtain ⟨vs, ht, hj⟩ := ih _ _ _ hb
        refine ⟨us ++ sep :: vs, ?_, .cons hp hj⟩
        cases ts' with
        | nil => cases hs
        | cons t ts' =>
          cases hs
          rw [List.tail_cons] at ht
          simp [ht]
      case isFalse =>
        cases hr
        exact ⟨us, rfl, .single hp⟩

/-- Tokens that spell a reference which fits if its names are names. -/
def Reads (room : Nat) (t : TypeRef) (ts : List Token) : Prop :=
  Spells t ts ∧ ((∀ n, .name n ∈ ts → IsNameText n) → Fits room t)

/-- The same for the arguments of a generic reference. -/
def ReadsArguments (room : Nat) (as : List TypeRef) (ts : List Token) : Prop :=
  Joined Spells .comma as ts ∧
    ((∀ n, .name n ∈ ts → IsNameText n) → ∀ c, IsNameText c → Fits room (.generic c as))

theorem Joined.reads (h : Joined (Reads room) sep as ts) :
    Joined Spells sep as ts ∧
      ((∀ n, .name n ∈ ts → IsNameText n) → ∀ a ∈ as, Fits room a) := by
  induction h with
  | single h => exact ⟨.single h.1, by simpa using h.2⟩
  | @cons a ts as us h _ ih =>
    refine ⟨.cons h.1 ih.1, fun hn => ?_⟩
    rw [List.forall_mem_cons]
    exact ⟨h.2 fun n hm => hn n (by simp [hm]), ih.2 fun n hm => hn n (by simp [hm])⟩

theorem Joined.ne_nil (h : Joined P sep as ts) : as ≠ [] := by
  cases h <;> exact List.cons_ne_nil _ _

theorem Sound.segment {arguments : Reader (List TypeRef)}
    (h : Sound (ReadsArguments room) arguments) :
    Sound (fun s us => (isKeyword s = true ∨ s.isSegment = true) ∧ Reads room s us)
      (segment arguments) := by
  intro ts s rest hr
  unfold TypeRef.segment at hr
  split at hr
  case h_1 n ts =>
    split at hr
    case h_1 as rest' ha =>
      cases hr
      obtain ⟨us, rfl, hj, hf⟩ := h _ _ _ ha
      refine ⟨.name n :: .less :: (us ++ [.greater]), by simp, .inr rfl, .generic hj, fun hn => ?_⟩
      exact hf (fun m hm => hn m (by simp [hm])) n (hn n (by simp))
    case h_2 => cases hr
  case h_2 n ts _ =>
    cases hr
    refine ⟨[.name n], rfl, ?_⟩
    split
    case isTrue hk => exact ⟨.inl rfl, .keyword, fun _ => .keyword (by simpa using hk)⟩
    case isFalse hk =>
      exact ⟨.inr rfl, .named, fun hn => .named (hn n (by simp)) (by simpa using hk)⟩
  case h_3 => cases hr

theorem Joined.imp (h : Joined P sep as ts) (hPQ : ∀ a us, P a us → Q a us) :
    Joined Q sep as ts := by
  induction h with
  | single h => exact .single (hPQ _ _ h)
  | cons h _ ih => exact .cons (hPQ _ _ h) ih

theorem Joined.forall_mem {q : α → Prop} (h : Joined P sep as ts) (hPq : ∀ a us, P a us → q a) :
    ∀ a ∈ as, q a := by
  induction h with
  | single h => simpa using hPq _ _ h
  | cons h _ ih => exact List.forall_mem_cons.2 ⟨hPq _ _ h, ih⟩

theorem suffixCount_eq_zero (h : isKeyword s = true ∨ s.isSegment = true) :
    s.suffixCount = 0 := by
  cases s with
  | array | nullable => simp [isKeyword, isSegment] at h
  | _ => rfl

theorem reads_of_ofSegments?
    (h : Joined (fun s us => (isKeyword s = true ∨ s.isSegment = true) ∧ Reads room s us)
      .dot ss ts)
    (ht : ofSegments? ss = some t) : Reads room t ts ∧ t.suffixCount = 0 := by
  unfold ofSegments? at ht
  split at ht
  case h_1 => cases ht
  case h_2 s =>
    cases ht
    cases h with
    | single h => exact ⟨h.2, suffixCount_eq_zero h.1⟩
    | cons _ hj => exact (hj.ne_nil rfl).elim
  case h_3 _ hne hne' =>
    split at ht
    case isTrue => cases ht
    case isFalse hk =>
      cases ht
      obtain ⟨hj, hf⟩ := (h.imp fun _ _ h => h.2).reads
      refine ⟨⟨.dotted hj, fun hn => .dotted ?_ ?_ (hf hn)⟩, rfl⟩
      · match ss with
        | [] => exact (hne rfl).elim
        | [s] => exact (hne' s rfl).elim
        | _ :: _ :: _ => simp
      · intro s hs
        apply (h.forall_mem (fun _ _ h => h.1) s hs).resolve_left
        simpa using List.any_eq_false.1 (Bool.of_not_eq_true hk) s hs

theorem takeWhile_eq_replicate (ts : List Token) (t : Token) :
    ∃ n, ts.takeWhile (· == t) = List.replicate n t :=
  ⟨_, List.eq_replicate_of_mem fun _ hu => eq_of_beq (List.mem_takeWhile_imp (p := (· == t)) hu)⟩

theorem suffixes_sound (h : suffixes room t ts = some (u, rest)) :
    ∃ us, ts = us ++ rest ∧ (∀ bs, Spells t bs → Spells u (bs ++ us)) ∧
      ∀ k, t.suffixCount + room ≤ k → Fits k t → Fits k u := by
  induction room generalizing t ts with
  | zero =>
    unfold suffixes at h
    split at h <;> cases h
    exact ⟨[], rfl, by simp, fun _ _ hf => hf⟩
  | succ room ih =>
    unfold suffixes at h
    split at h
    case h_1 ts =>
      obtain ⟨us, rfl, hs, hf⟩ := ih h
      refine ⟨.question :: us, rfl, fun bs hb => ?_, fun k hk ht => hf k ?_ (.nullable ht ?_)⟩
      · simpa using hs _ (.nullable hb)
      · rw [suffixCount]
        omega
      · omega
    case h_2 ts =>
      split at h
      case h_1 ts' hd =>
        obtain ⟨us, rfl, hs, hf⟩ := ih h
        obtain ⟨n, hn⟩ := takeWhile_eq_replicate ts .comma
        have he := List.takeWhile_append_dropWhile (p := (· == Token.comma)) (l := ts)
        rw [hn, hd] at he
        refine ⟨.openBracket :: (List.replicate n .comma ++ .closeBracket :: us), ?_, ?_, ?_⟩
        · simp [← he]
        · intro bs hb
          simpa using hs _ (.array n hb)
        · intro k hk ht
          refine hf k ?_ (.array ht ?_)
          · rw [suffixCount]
            omega
          · omega
      case h_2 => cases h
    case h_3 =>
      cases h
      exact ⟨[], rfl, by simp, fun _ _ hf => hf⟩

theorem Sound.reference {arguments : Reader (List TypeRef)}
    (h : Sound (ReadsArguments room) arguments) :
    Sound (Reads room) (reference room arguments) := by
  intro ts t rest hr
  unfold TypeRef.reference at hr
  split at hr
  case h_1 => cases hr
  case h_2 ss ts' hs =>
    obtain ⟨s, ht, hr⟩ := Option.bind_eq_some_iff.1 hr
    obtain ⟨us, rfl, hj⟩ := h.segment.separated .dot _ _ _ _ hs
    obtain ⟨⟨hsp, hf⟩, hc⟩ := reads_of_ofSegments? hj ht
    obtain ⟨vs, rfl, hsp', hf'⟩ := suffixes_sound hr
    refine ⟨us ++ vs, by simp, hsp' us hsp, fun hn => hf' room (by omega) (hf fun n hm => ?_)⟩
    exact hn n (List.mem_append_left vs hm)

/-- Reads the arguments of a generic reference if there is room for them. -/
def arguments : Nat → Reader (List TypeRef)
  | 0 => fun _ => none
  | room + 1 => fun ts => separated .comma (read room) ts.length ts

theorem read_eq (room : Nat) : read room = reference room (arguments room) := by
  cases room <;> rfl

/-- What is read is a reference that the tokens spell and that there is room for. -/
theorem read_sound (room : Nat) : Sound (Reads room) (read room) := by
  induction room with
  | zero =>
    rw [read_eq]
    apply Sound.reference
    intro ts as rest hr
    cases hr
  | succ room ih =>
    rw [read_eq]
    apply Sound.reference
    intro ts as rest hr
    obtain ⟨us, he, hj⟩ := ih.separated .comma _ _ _ _ hr
    exact ⟨us, he, hj.reads.1, fun hn c hc => .generic hc hj.ne_nil (hj.reads.2 hn)⟩

end TripleSlash.TypeRef
