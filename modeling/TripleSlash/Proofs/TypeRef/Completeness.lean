import TripleSlash.Proofs.TypeRef.Soundness

namespace TripleSlash.TypeRef

open Token

theorem Joined.length_le (h : Joined P sep as ts) (hP : ∀ a ∈ as, ∀ us, P a us → us ≠ []) :
    as.length ≤ ts.length := by
  induction h with
  | single h => exact List.length_pos_of_ne_nil (hP _ List.mem_cons_self _ h)
  | cons _ _ ih =>
    have hl := ih fun a ha => hP a (List.mem_cons_of_mem _ ha)
    simp only [List.length_cons, List.length_append]
    omega

theorem Fits.spells_ne_nil (h : Fits room t) (hs : Spells t ts) : ts ≠ [] := by
  induction h generalizing ts with
  | dotted hl _ _ ih =>
    cases hs with
    | dotted hj =>
      have hle := hj.length_le fun s hm us hu => ih s hm hu
      exact List.ne_nil_of_length_pos (by omega)
  | _ => cases hs; simp

theorem separated_of_joined {item : Reader α} (stop : List Token → Prop)
    (hi : ∀ a ∈ as, ∀ us rest, P a us → stop rest → item (us ++ rest) = some (a, rest))
    (hsep : ∀ ts, stop (sep :: ts)) (h : Joined P sep as us) (hn : as.length ≤ n)
    (hr : stop rest) (hne : rest.head? ≠ some sep) :
    separated sep item n (us ++ rest) = some (as, rest) := by
  induction h generalizing n with
  | @single a us h =>
    obtain ⟨n, rfl⟩ := Nat.exists_eq_add_of_le' hn
    rw [List.length_singleton, separated, hi a List.mem_cons_self us rest h hr]
    exact if_neg hne
  | @cons a us as vs h _ ih =>
    obtain ⟨n, rfl⟩ := Nat.exists_eq_add_of_le' hn
    have hv := ih (fun b hb => hi b (List.mem_cons_of_mem a hb)) (Nat.le_add_left _ n)
    rw [List.append_assoc, List.cons_append, List.length_cons, ← Nat.add_assoc, separated,
      hi a List.mem_cons_self us _ h (hsep _)]
    refine (if_pos rfl).trans ?_
    rw [List.tail_cons, hv]
    rfl

theorem segment_name {r : Reader (List TypeRef)} (n : String) (hr : rest.head? ≠ some .less) :
    segment r (.name n :: rest) =
      some (if keywords.contains n then .keyword n else .named n, rest) := by
  cases rest with
  | nil => rfl
  | cons t rest =>
    cases t with
    | less => exact (hr rfl).elim
    | _ => rfl

/-- A reader of arguments reads those that fit, up to the bracket behind them. -/
def ReadsUpToGreater (room : Nat) (r : Reader (List TypeRef)) : Prop :=
  ∀ c as us rest, Fits room (.generic c as) → Joined Spells .comma as us →
    r (us ++ .greater :: rest) = some (as, .greater :: rest)

theorem segment_of_spells (ha : ReadsUpToGreater room r) (hf : Fits room s)
    (hk : isKeyword s = true ∨ s.isSegment = true) (hs : Spells s us)
    (hr : rest.head? ≠ some .less) : segment r (us ++ rest) = some (s, rest) := by
  cases hs with
  | keyword =>
    cases hf with
    | keyword h => simp [segment_name _ hr, h]
  | named =>
    cases hf with
    | named _ h => simp [segment_name _ hr, h]
  | @generic as us c hj =>
    have he : Token.name c :: .less :: (us ++ [.greater]) ++ rest =
        .name c :: .less :: (us ++ .greater :: rest) := by simp
    rw [he, segment, ha c as us rest hf hj]
  | dotted | array | nullable => simp [isKeyword, isSegment] at hk

/-- Tokens that cannot extend a reference in front of them. -/
def Closes (ts : List Token) : Prop := ∀ t ∈ ts.head?, t = .comma ∨ t = .greater

theorem suffixes_of_closes (h : Closes rest) (room : Nat) (t : TypeRef) :
    suffixes room t rest = some (t, rest) := by
  cases rest with
  | nil => cases room <;> rfl
  | cons u rest => rcases h u rfl with rfl | rfl <;> cases room <;> rfl

/-- The reference without its suffixes. -/
def core : TypeRef → TypeRef
  | .array e | .nullable e => e.core
  | t => t

theorem suffixCount_core (t : TypeRef) : t.core.suffixCount = 0 := by
  induction t using core.induct with
  | case1 e ih => exact ih
  | case2 e ih => exact ih
  | case3 t ha hn =>
    cases t with
    | array e => exact (ha e rfl).elim
    | nullable e => exact (hn e rfl).elim
    | _ => rfl

theorem Fits.core (h : Fits room t) : Fits room t.core ∧ t.suffixCount ≤ room := by
  induction h with
  | array _ hr ih => exact ⟨ih.1, hr⟩
  | nullable _ hr ih => exact ⟨ih.1, hr⟩
  | keyword hk => exact ⟨.keyword hk, Nat.zero_le _⟩
  | named hn hk => exact ⟨.named hn hk, Nat.zero_le _⟩
  | dotted hl hs hf => exact ⟨.dotted hl hs hf, Nat.zero_le _⟩
  | generic hc hn hf => exact ⟨.generic hc hn hf, Nat.zero_le _⟩

theorem suffixes_array (room n : Nat) (t : TypeRef) (rest : List Token) :
    suffixes (room + 1) t (.openBracket :: (List.replicate n .comma ++ .closeBracket :: rest)) =
      suffixes room (.array t) rest := by
  have hd : (List.replicate n Token.comma ++ .closeBracket :: rest).dropWhile (· == .comma) =
      .closeBracket :: rest := by
    rw [List.dropWhile_append_of_pos fun u hu => by simp [List.eq_of_mem_replicate hu]]
    rfl
  rw [suffixes, hd]

/-- Tokens that open a suffix if they are not empty. -/
def OpensSuffix (ts : List Token) : Prop := ∀ t ∈ ts.head?, t = .question ∨ t = .openBracket

theorem OpensSuffix.append_cons (h : OpensSuffix us) (ht : t = .question ∨ t = .openBracket)
    (vs : List Token) : OpensSuffix (us ++ t :: vs) := by
  cases us with
  | nil => simpa [OpensSuffix] using ht
  | cons u us => simpa [OpensSuffix] using h

/-- The tokens of a reference are those of its core and then its suffixes, which are read where
there is room for them. -/
theorem exists_core (h : Spells t ts) :
    ∃ bs us, ts = bs ++ us ∧ Spells t.core bs ∧ OpensSuffix us ∧
      ∀ room rest, suffixes (room + t.suffixCount) t.core (us ++ rest) = suffixes room t rest := by
  induction t using core.induct generalizing ts with
  | case1 e ih =>
    cases h with
    | @array _ ts n h =>
      obtain ⟨bs, us, rfl, hb, ho, hr⟩ := ih h
      refine ⟨bs, us ++ .openBracket :: (List.replicate n .comma ++ [.closeBracket]), by simp, hb,
        ho.append_cons (.inr rfl) _, fun room rest => ?_⟩
      have he := hr (room + 1) (.openBracket :: (List.replicate n .comma ++ .closeBracket :: rest))
      rw [suffixes_array, Nat.add_right_comm] at he
      simpa [suffixCount, core, Nat.add_assoc] using he
  | case2 e ih =>
    cases h with
    | @nullable _ ts h =>
      obtain ⟨bs, us, rfl, hb, ho, hr⟩ := ih h
      refine ⟨bs, us ++ [.question], by simp, hb, ho.append_cons (.inl rfl) _, fun room rest => ?_⟩
      have he := hr (room + 1) (.question :: rest)
      rw [suffixes, Nat.add_right_comm] at he
      simpa [suffixCount, core, Nat.add_assoc] using he
  | case3 t ha hn =>
    have hc : t.core = t ∧ t.suffixCount = 0 := by
      cases t with
      | array e => exact (ha e rfl).elim
      | nullable e => exact (hn e rfl).elim
      | _ => exact ⟨rfl, rfl⟩
    rw [hc.1, hc.2]
    exact ⟨ts, [], by simp, h, by simp [OpensSuffix], fun room rest => rfl⟩

theorem exists_segments (hf : Fits room t) (hs : Spells t ts) (hc : t.suffixCount = 0) :
    ∃ ss, ofSegments? ss = some t ∧ Joined Spells .dot ss ts ∧
      ∀ s ∈ ss, Fits room s ∧ (isKeyword s = true ∨ s.isSegment = true) := by
  cases hf with
  | array | nullable => cases hc
  | keyword hk => exact ⟨[_], rfl, .single hs, by simpa using ⟨.keyword hk, .inl rfl⟩⟩
  | named hn hk => exact ⟨[_], rfl, .single hs, by simpa using ⟨.named hn hk, .inr rfl⟩⟩
  | generic hn ha hf => exact ⟨[_], rfl, .single hs, by simpa using ⟨.generic hn ha hf, .inr rfl⟩⟩
  | @dotted ss _ hl hg hf =>
    cases hs with
    | dotted hj =>
      refine ⟨ss, ?_, hj, fun s hs => ⟨hf s hs, .inr (hg s hs)⟩⟩
      have hk : ss.any isKeyword = false := by
        rw [List.any_eq_false]
        intro s hs hk
        cases s with
        | keyword => cases hg _ hs
        | _ => cases hk
      match ss with
      | [] | [_] => simp at hl
      | _ :: _ :: _ => simp [ofSegments?, hk]

theorem reference_of_spells (ha : ReadsUpToGreater room r) (hf : Fits room t) (hs : Spells t us)
    (hr : Closes rest) : reference room r (us ++ rest) = some (t, rest) := by
  obtain ⟨bs, vs, rfl, hb, ho, hsuf⟩ := exists_core hs
  obtain ⟨hfc, hle⟩ := hf.core
  obtain ⟨ss, ht, hj, hss⟩ := exists_segments hfc hb (suffixCount_core t)
  have hh : ∀ u ∈ (vs ++ rest).head?, u ≠ .less ∧ u ≠ .dot := by
    intro u hu
    cases vs with
    | nil => rcases hr u hu with rfl | rfl <;> simp
    | cons v vs => rcases ho u hu with rfl | rfl <;> simp
  have hl := hj.length_le fun s hm us hu => (hss s hm).1.spells_ne_nil hu
  have hsep : separated .dot (segment r) (bs ++ (vs ++ rest)).length (bs ++ (vs ++ rest)) =
      some (ss, vs ++ rest) := by
    refine separated_of_joined (fun ts => ts.head? ≠ some .less) ?_ ?_ hj ?_ ?_ ?_
    · exact fun s hm us rest hu hn => segment_of_spells ha (hss s hm).1 (hss s hm).2 hu hn
    · simp
    · simp only [List.length_append]
      omega
    · exact fun hu => (hh _ hu).1 rfl
    · exact fun hu => (hh _ hu).2 rfl
  have hread := hsuf (room - t.suffixCount) rest
  rw [Nat.sub_add_cancel hle, suffixes_of_closes hr] at hread
  rw [reference, List.append_assoc, hsep]
  simpa [ht] using hread

/-- Every spelling of a reference that fits is read as that reference. -/
theorem read_of_spells (hf : Fits room t) (hs : Spells t us) (hr : Closes rest) :
    read room (us ++ rest) = some (t, rest) := by
  -- Each argument list has room for one less, so the induction is on the room, not on `t`.
  induction room generalizing t us rest with
  | zero =>
    rw [read_eq]
    refine reference_of_spells (fun c as us rest hg => ?_) hf hs hr
    cases hg
  | succ room ih =>
    rw [read_eq]
    refine reference_of_spells (fun c as us rest hg hj => ?_) hf hs hr
    cases hg with
    | generic _ _ ha =>
      have hl := hj.length_le fun a hm us hu => (ha a hm).spells_ne_nil hu
      refine separated_of_joined Closes (fun a hm us rest hu hc => ih (ha a hm) hu hc)
        ?_ hj ?_ ?_ ?_
      · simp [Closes]
      · simp only [List.length_append]
        omega
      · simp [Closes]
      · simp

end TripleSlash.TypeRef
