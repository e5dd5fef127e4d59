import TripleSlash.Proofs.Datum.Encoded
import TripleSlash.Proofs.Datum.Json.Quoted

namespace TripleSlash.Json

open Datum (Encoded ofFields)

theorem isBlank_of_mem_newLine (h : c ∈ newLine level) : isBlank c = true := by
  rcases List.mem_cons.1 h with rfl | h
  · rfl
  · rw [List.eq_of_mem_replicate h]
    rfl

theorem skipBlanks_newLine_append (level : Nat) (cs : List Char) :
    skipBlanks (newLine level ++ cs) = skipBlanks cs :=
  List.dropWhile_append_of_pos fun _ h => isBlank_of_mem_newLine h

theorem skipBlanks_cons (h : isBlank c = false) (cs : List Char) :
    skipBlanks (c :: cs) = c :: cs := by
  rw [skipBlanks, List.dropWhile_cons_of_neg (by simp [h])]

theorem readValue_newLine_append (n level : Nat) (cs : List Char) :
    readValue n (newLine level ++ cs) = readValue n cs := by
  cases n with
  | zero => rfl
  | succ n => rw [readValue, readValue, skipBlanks_newLine_append]

/-- Written items with commas between them. -/
def joined (put : α → List Char) : List α → List Char
  | [] => []
  | [a] => put a
  | a :: b :: as => put a ++ ',' :: joined put (b :: as)

theorem joined_cons (put : α → List Char) (a : α) (as : List α) :
    joined put (a :: as) = put a ++ as.flatMap fun b => ',' :: put b := by
  induction as generalizing a with
  | nil => simp [joined]
  | cons b as ih => rw [joined, ih, List.flatMap_cons, List.cons_append]

theorem length_le_joined (put : α → List Char) (as : List α) :
    as.length ≤ (joined put as).length + 1 := by
  induction as with
  | nil => simp
  | cons a as ih =>
    cases as with
    | nil => simp
    | cons b as =>
      rw [joined, List.length_append, List.length_cons]
      rw [List.length_cons] at ih ⊢
      rw [List.length_cons]
      omega

theorem length_put_le_joined {put : α → List Char} {as : List α} (h : a ∈ as) :
    (put a).length ≤ (joined put as).length := by
  induction as with
  | nil => cases h
  | cons b as ih =>
    cases as with
    | nil =>
      cases List.mem_singleton.1 h
      exact Nat.le_refl _
    | cons c as =>
      rw [joined, List.length_append, List.length_cons]
      rcases List.mem_cons.1 h with rfl | h
      · omega
      · have hle := ih h
        omega

section

variable {item : Reader α} {put : α → List Char} {as : List α}

theorem readItems_joined (hb : isBlank close = false) (hc : close ≠ ',') (hne : as ≠ [])
    (hr : ∀ a ∈ as, ∀ rest, item (put a ++ rest) = some (a, rest)) (hn : as.length ≤ n) :
    readItems item close n (joined put as ++ (newLine level ++ close :: rest)) =
      some (as, rest) := by
  induction as generalizing n with
  | nil => exact (hne rfl).elim
  | cons a as ih =>
    rw [List.forall_mem_cons] at hr
    cases n with
    | zero => simp at hn
    | succ n =>
      cases as with
      | nil =>
        rw [joined, readItems, hr.1]
        simp [skipBlanks_newLine_append, skipBlanks_cons hb]
      | cons b as =>
        have hi := ih (List.cons_ne_nil b as) hr.2 (Nat.le_of_succ_le_succ hn)
        rw [joined, List.append_assoc, readItems, hr.1]
        simp only [List.cons_append, skipBlanks_cons (by decide : isBlank ',' = false), hi,
          Option.map_some]

theorem readBracketed_joined (hb : isBlank close = false) (hc : close ≠ ',') (hne : as ≠ [])
    (ho : ∀ a ∈ as, ∀ rest, (skipBlanks (put a ++ rest)).head? ≠ some close)
    (hr : ∀ a ∈ as, ∀ rest, item (put a ++ rest) = some (a, rest)) (hn : as.length ≤ n) :
    readBracketed item close n (joined put as ++ (newLine level ++ close :: rest)) =
      some (as, rest) := by
  have hs : (skipBlanks (joined put as ++ (newLine level ++ close :: rest))).head? ≠
      some close := by
    cases as with
    | nil => exact (hne rfl).elim
    | cons a as =>
      rw [joined_cons, List.append_assoc]
      exact ho a List.mem_cons_self _
  rw [readBracketed, if_neg hs]
  exact readItems_joined hb hc hne hr hn

end

def putItem (level : Nat) (v : Datum) : List Char := newLine level ++ write level v

def putField (level : Nat) (f : Datum × Datum) : List Char :=
  newLine level ++ (key f.1 ++ ':' :: ' ' :: write level f.2)

theorem write_list (level : Nat) (hne : vs ≠ []) :
    write level (.list vs) =
      '[' :: (joined (putItem (level + 1)) vs ++ (newLine level ++ [']'])) := by
  have hi (vs : List Datum) : writeItems (level + 1) vs =
      vs.flatMap fun v => ',' :: putItem (level + 1) v := by
    induction vs with
    | nil => rfl
    | cons v vs ih => simp [writeItems, putItem, ih]
  cases vs with
  | nil => exact (hne rfl).elim
  | cons v vs => simp [write, hi, joined_cons, putItem]

theorem ofFields_eq (fs : Datum.Fields) :
    ofFields fs = .record (fs.map fun f => (.text f.1, f.2)) :=
  rfl

theorem write_record (level : Nat) (hne : fs ≠ []) :
    write level (.record fs) =
      '\x7b' :: (joined (putField (level + 1)) fs ++ (newLine level ++ ['\x7d'])) := by
  have hi (fs : List (Datum × Datum)) : writeFields (level + 1) fs =
      fs.flatMap fun f => ',' :: putField (level + 1) f := by
    induction fs with
    | nil => rfl
    | cons f fs ih => simp [writeFields, putField, ih]
  cases fs with
  | nil => exact (hne rfl).elim
  | cons f fs => simp [write, hi, joined_cons, putField]

theorem exists_write_eq_cons (h : Encoded depth d) (level : Nat) :
    ∃ c cs, write level d = c :: cs ∧ isBlank c = false ∧ c ≠ ']' := by
  cases h with
  | null => exact ⟨_, _, rfl, by decide, by decide⟩
  | @bool _ b => cases b <;> exact ⟨_, _, rfl, by decide, by decide⟩
  | text => exact ⟨_, _, rfl, by decide, by decide⟩
  | @list _ vs => cases vs <;> exact ⟨_, _, rfl, by decide, by decide⟩
  | @record _ fs => cases fs <;> exact ⟨_, _, rfl, by decide, by decide⟩

theorem head?_putItem (h : Encoded depth d) (level : Nat) (rest : List Char) :
    (skipBlanks (putItem level d ++ rest)).head? ≠ some ']' := by
  obtain ⟨c, cs, he, hb, hc⟩ := exists_write_eq_cons h level
  rw [putItem, List.append_assoc, skipBlanks_newLine_append, he, List.cons_append,
    skipBlanks_cons hb]
  simpa using hc

theorem skipBlanks_putField (level : Nat) (name : String) (v : Datum) (rest : List Char) :
    skipBlanks (putField level (.text name, v) ++ rest) =
      '"' :: (name.toList.flatMap escapeChar ++
        '"' :: ':' :: ' ' :: (write level v ++ rest)) := by
  rw [putField, List.append_assoc, skipBlanks_newLine_append]
  simp [key, quote, Datum.text?, skipBlanks_cons (by decide : isBlank '"' = false)]

theorem readField_putField {value : Reader Datum} (name : String)
    (hv : ∀ rest, value (' ' :: (write level v ++ rest)) = some (v, rest)) (rest : List Char) :
    readField value (putField level (.text name, v) ++ rest) = some ((.text name, v), rest) := by
  rw [readField, skipBlanks_putField]
  simp only [readQuoted_flatMap, skipBlanks_cons (by decide : isBlank ':' = false), hv,
    Option.map_some, quoted, String.ofList_toList]

theorem readValue_text (n level : Nat) (s : String) (rest : List Char) :
    readValue (n + 1) (write level (.text s) ++ rest) = some (.text s, rest) := by
  have hq : skipBlanks (write level (.text s) ++ rest) =
      '"' :: (s.toList.flatMap escapeChar ++ '"' :: rest) := by
    simp [write, quote, skipBlanks_cons (by decide : isBlank '"' = false)]
  rw [readValue, hq]
  change (readQuoted _).map _ = _
  rw [readQuoted_flatMap]
  simp only [Option.map_some, quoted, String.ofList_toList]

theorem readValue_blank (n : Nat) (h : isBlank c = true) (cs : List Char) :
    readValue n (c :: cs) = readValue n cs := by
  cases n with
  | zero => rfl
  | succ n => rw [readValue, readValue, skipBlanks, List.dropWhile_cons_of_pos h, skipBlanks]

theorem readValue_list {n : Nat} (hv : ∀ v ∈ vs, Encoded depth v)
    (hr : ∀ v ∈ vs, ∀ rest, readValue n (putItem (level + 1) v ++ rest) = some (v, rest))
    (hn : vs.length ≤ n) (rest : List Char) :
    readValue (n + 1) (write level (.list vs) ++ rest) = some (.list vs, rest) := by
  by_cases hne : vs = []
  · rw [hne]
    rfl
  rw [write_list level hne, List.cons_append, List.append_assoc, List.append_assoc, readValue,
    skipBlanks_cons (by decide)]
  change (readBracketed _ _ _ _).map _ = _
  have ho : ∀ v ∈ vs, ∀ rest,
      (skipBlanks (putItem (level + 1) v ++ rest)).head? ≠ some ']' :=
    fun v hm => head?_putItem (hv v hm) (level + 1)
  rw [List.singleton_append, readBracketed_joined (by decide) (by decide) hne ho hr hn]
  rfl

theorem readValue_record {n : Nat} {fs : Datum.Fields}
    (hr : ∀ f ∈ fs, ∀ rest,
      readValue n (' ' :: (write (level + 1) f.2 ++ rest)) = some (f.2, rest))
    (hn : fs.length ≤ n) (rest : List Char) :
    readValue (n + 1) (write level (ofFields fs) ++ rest) = some (ofFields fs, rest) := by
  by_cases hne : fs = []
  · rw [hne]
    rfl
  have hne' : (fs.map fun f => (Datum.text f.1, f.2)) ≠ [] := by simpa using hne
  rw [ofFields_eq, write_record level hne', List.cons_append, List.append_assoc, List.append_assoc,
    readValue, skipBlanks_cons (by decide)]
  change (readBracketed _ _ _ _).map _ = _
  rw [List.singleton_append,
    readBracketed_joined (by decide) (by decide) hne' ?_ ?_ (by simpa using hn)]
  · rfl
  · intro f hf rest
    obtain ⟨⟨k, v⟩, -, rfl⟩ := List.mem_map.1 hf
    rw [skipBlanks_putField, List.head?_cons]
    decide
  · intro f hf rest
    obtain ⟨⟨k, v⟩, hm, rfl⟩ := List.mem_map.1 hf
    exact readField_putField k (hr (k, v) hm) rest

theorem length_lt_write_list (level : Nat) (vs : List Datum) :
    vs.length < (write level (.list vs)).length := by
  by_cases hne : vs = []
  · rw [hne]
    simp [write]
  have hle := length_le_joined (putItem (level + 1)) vs
  rw [write_list level hne, List.length_cons, List.length_append, List.length_append,
    List.length_singleton]
  omega

theorem length_write_lt_write_list (level : Nat) (hv : v ∈ vs) :
    (write (level + 1) v).length < (write level (.list vs)).length := by
  have hle : (putItem (level + 1) v).length ≤ _ := length_put_le_joined hv
  rw [putItem, List.length_append] at hle
  rw [write_list level (List.ne_nil_of_mem hv), List.length_cons, List.length_append]
  omega

theorem length_lt_write_ofFields (level : Nat) (fs : Datum.Fields) :
    fs.length < (write level (ofFields fs)).length := by
  by_cases hne : fs = []
  · rw [hne]
    simp [ofFields, write]
  have hle := length_le_joined (putField (level + 1)) (fs.map fun f => (.text f.1, f.2))
  rw [List.length_map] at hle
  rw [ofFields_eq, write_record level (by simpa using hne), List.length_cons, List.length_append,
    List.length_append, List.length_singleton]
  omega

theorem length_write_le_putField (level : Nat) (k v : Datum) :
    (write level v).length ≤ (putField level (k, v)).length := by
  simp only [putField, List.length_append, List.length_cons]
  omega

theorem length_write_lt_write_ofFields {fs : Datum.Fields} (level : Nat) (hf : f ∈ fs) :
    (write (level + 1) f.2).length < (write level (ofFields fs)).length := by
  have hm : (.text f.1, f.2) ∈ fs.map fun f => (Datum.text f.1, f.2) := List.mem_map_of_mem hf
  have hv := length_write_le_putField (level + 1) (.text f.1) f.2
  have hle : (putField (level + 1) (.text f.1, f.2)).length ≤ _ := length_put_le_joined hm
  rw [ofFields_eq, write_record level (List.ne_nil_of_mem hm), List.length_cons, List.length_append]
  omega

/-- What is written on any level is read back, whatever follows. -/
theorem readValue_write (h : Encoded depth d) (level : Nat) (rest : List Char)
    (hn : (write level d).length ≤ n) :
    readValue (n + 1) (write level d ++ rest) = some (d, rest) := by
  induction h generalizing level rest n with
  | null => rfl
  | @bool _ b => cases b <;> rfl
  | @text _ s => exact readValue_text n level s rest
  | @list depth vs hvs ih =>
    have hlen := length_lt_write_list level vs
    apply readValue_list hvs _ (by omega)
    intro v hv rest
    have hlt := length_write_lt_write_list level hv
    obtain ⟨m, rfl⟩ : ∃ m, n = m + 1 := ⟨n - 1, by omega⟩
    rw [putItem, List.append_assoc, readValue_newLine_append]
    exact ih v hv (level + 1) rest (by omega)
  | @record depth fs _ ih =>
    have hlen := length_lt_write_ofFields level fs
    apply readValue_record _ (by omega)
    intro f hf rest
    have hlt := length_write_lt_write_ofFields level hf
    obtain ⟨m, rfl⟩ : ∃ m, n = m + 1 := ⟨n - 1, by omega⟩
    rw [readValue_blank _ rfl]
    exact ih f hf (level + 1) rest (by omega)

/-- Data of little depth is read back from its text. -/
theorem parse?_pretty (h : Encoded depth d) (hd : depth ≤ nesting) :
    parse? (pretty d) = some d := by
  have hr := readValue_write h 0 [] (Nat.le_refl _)
  rw [List.append_nil] at hr
  rw [parse?, pretty, String.toList_ofList, hr]
  simp [skipBlanks, h.prune hd]

end TripleSlash.Json
