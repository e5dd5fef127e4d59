import Mathlib.Tactic.Ring
import TripleSlash.Proofs.TypeRef.RoundTrip

namespace TripleSlash.TypeRef

open Token

mutual

/-- How many argument lists and suffixes, counted together, a way from the whole reference to a name
can lead through. -/
def height : TypeRef → Nat
  | .keyword _ | .named _ | .raw _ => 0
  | .dotted ss => heights ss
  | .generic _ as => heights as + 1
  | .array e | .nullable e => e.height + 1

def heights : List TypeRef → Nat
  | [] => 0
  | t :: ts => max t.height (heights ts)

end

theorem heights_le_iff : heights ts ≤ n ↔ ∀ t ∈ ts, t.height ≤ n := by
  induction ts with
  | nil => simp [heights]
  | cons t ts ih => rw [heights, Nat.max_le, ih, List.forall_mem_cons]

mutual

/-- How many argument lists and suffixes the reader counts together: the suffixes of one type and
the lists that it stands in. -/
def load : TypeRef → Nat
  | .keyword _ | .named _ | .raw _ => 0
  | .dotted ss => loads ss
  | .generic _ as => loads as + 1
  | .array e | .nullable e => max e.load (e.suffixCount + 1)

def loads : List TypeRef → Nat
  | [] => 0
  | t :: ts => max t.load (loads ts)

end

theorem loads_le_iff : loads ts ≤ n ↔ ∀ t ∈ ts, t.load ≤ n := by
  induction ts with
  | nil => simp [loads]
  | cons t ts ih => rw [loads, Nat.max_le, ih, List.forall_mem_cons]

theorem suffixCount_le_height (t : TypeRef) : t.suffixCount ≤ t.height := by
  induction t using core.induct with
  | case1 e ih => exact Nat.succ_le_succ ih
  | case2 e ih => exact Nat.succ_le_succ ih
  | case3 t ha hn =>
    cases t with
    | array e => exact (ha e rfl).elim
    | nullable e => exact (hn e rfl).elim
    | _ => exact Nat.zero_le _

/-- The height of a reference where every argument list carries all the suffixes there is room for
and holds such a reference. -/
def maxHeight : Nat → Nat
  | 0 => 0
  | room + 1 => maxHeight room + 1 + (room + 1)

theorem maxHeight_eq (room : Nat) : maxHeight room = room * (room + 3) / 2 := by
  have h : 2 * maxHeight room = room * (room + 3) := by
    induction room with
    | zero => rfl
    | succ room ih => rw [maxHeight, Nat.mul_add, Nat.mul_add, ih]; ring
  omega

theorem le_maxHeight (room : Nat) : room ≤ maxHeight room := by
  cases room with
  | zero => exact Nat.le_refl 0
  | succ room => exact Nat.le_add_left _ _

/-- A reference without suffixes leaves the room for them unused. -/
theorem Fits.height_add_le (h : Fits room t) :
    t.height + room ≤ maxHeight room + t.suffixCount := by
  induction h with
  | @keyword t room => exact (Nat.zero_add room).symm ▸ le_maxHeight room
  | @named t room => exact (Nat.zero_add room).symm ▸ le_maxHeight room
  | @dotted ss room _ hs _ ih =>
    have hle : heights ss ≤ maxHeight room - room := heights_le_iff.2 fun s hm => by
      have hc : s.suffixCount = 0 := by
        have hseg := hs s hm
        cases s with
        | named | generic => rfl
        | _ => cases hseg
      have hh := ih s hm
      omega
    have := le_maxHeight room
    simp only [height, suffixCount]
    omega
  | @generic c as room _ _ hf ih =>
    have hle : heights as ≤ maxHeight room := heights_le_iff.2 fun a hm => by
      have hc := (hf a hm).core.2
      have hh := ih a hm
      omega
    simp only [height, suffixCount, maxHeight]
    omega
  | array _ _ ih | nullable _ _ ih =>
    simp only [height, suffixCount]
    omega

theorem Fits.height_le (h : Fits room t) : t.height ≤ maxHeight room := by
  have hc := h.core.2
  have hh := h.height_add_le
  omega

theorem height_parse_le (text : String) : (parse text).height ≤ maxHeight nesting := by
  rcases parse_cases text with ⟨hw, -⟩ | ⟨hr, -⟩
  · exact hw.height_le
  · rw [hr, height]
    exact Nat.zero_le _

theorem Fits.load_le (h : Fits room t) : t.load ≤ room := by
  induction h with
  | keyword | named => exact Nat.zero_le _
  | dotted _ _ _ ih => exact loads_le_iff.2 ih
  | generic _ _ _ ih => exact Nat.succ_le_succ (loads_le_iff.2 ih)
  | array _ hr ih | nullable _ hr ih => exact Nat.max_le.2 ⟨ih, hr⟩

theorem Fits.of_load_le (h : Fits room t) (hl : t.load ≤ n) : Fits n t := by
  induction h generalizing n with
  | keyword hk => exact .keyword hk
  | named hn hk => exact .named hn hk
  | dotted hd hs _ ih => exact .dotted hd hs fun s hm => ih s hm (loads_le_iff.1 hl s hm)
  | generic hc hne _ ih =>
    obtain ⟨n, rfl⟩ := Nat.exists_eq_add_of_le' (Nat.le_of_add_left_le hl)
    exact .generic hc hne fun a hm => ih a hm (loads_le_iff.1 (Nat.le_of_add_le_add_right hl) a hm)
  | array _ _ ih => exact .array (ih (Nat.max_le.1 hl).1) (Nat.max_le.1 hl).2
  | nullable _ _ ih => exact .nullable (ih (Nat.max_le.1 hl).1) (Nat.max_le.1 hl).2

theorem Fits.load_le_height (h : Fits room t) : t.load ≤ t.height := by
  induction h with
  | keyword | named => exact Nat.le_refl _
  | dotted _ _ _ ih =>
    exact loads_le_iff.2 fun s hm => (ih s hm).trans (heights_le_iff.1 (Nat.le_refl _) s hm)
  | generic _ _ _ ih =>
    refine Nat.succ_le_succ (loads_le_iff.2 fun a hm => ?_)
    exact (ih a hm).trans (heights_le_iff.1 (Nat.le_refl _) a hm)
  | @array _ e _ _ ih | @nullable _ e _ _ ih =>
    exact Nat.max_le.2 ⟨Nat.le_succ_of_le ih, Nat.succ_le_succ e.suffixCount_le_height⟩

/-- No text spells two references, however deep they nest. -/
theorem SpelledBy.unique (hs : SpelledBy t s) (hf : Fits room t) (hs' : SpelledBy t' s)
    (hf' : Fits room' t') : t = t' := by
  obtain ⟨ts, hs, hsp⟩ := hs
  obtain ⟨us, hs', hsp'⟩ := hs'
  have he := (scan_of_spaced hsp (hf.scannable hs)).symm.trans
    (scan_of_spaced hsp' (hf'.scannable hs'))
  obtain rfl := Option.some.inj he
  have hc : Closes [] := by simp [Closes]
  have hr := read_of_spells (hf.of_load_le (Nat.le_max_left _ t'.load)) hs hc
  rw [read_of_spells (hf'.of_load_le (Nat.le_max_right _ _)) hs' hc] at hr
  exact (Prod.mk.inj (Option.some.inj hr)).1.symm

section

variable (t : TypeRef) (n : Nat)

theorem height_nullable_iterate : (nullable^[n] t).height = t.height + n := by
  induction n with
  | zero => rfl
  | succ n ih => rw [Function.iterate_succ_apply', height, ih, Nat.add_assoc]

theorem suffixCount_nullable_iterate : (nullable^[n] t).suffixCount = t.suffixCount + n := by
  induction n with
  | zero => rfl
  | succ n ih => rw [Function.iterate_succ_apply', suffixCount, ih, Nat.add_assoc]

end

theorem Fits.nullable_iterate (h : Fits room t) (hn : t.suffixCount + n ≤ room) :
    Fits room (TypeRef.nullable^[n] t) := by
  induction n with
  | zero => exact h
  | succ n ih =>
    rw [Function.iterate_succ_apply']
    refine .nullable (ih (Nat.le_of_succ_le hn)) ?_
    rw [suffixCount_nullable_iterate]
    exact hn

/-- Argument lists in one another, each with all the suffixes that there is room for. -/
def tallest : Nat → TypeRef
  | 0 => .named "A"
  | room + 1 => nullable^[room + 1] (.generic "A" [tallest room])

theorem height_tallest (room : Nat) : (tallest room).height = maxHeight room := by
  induction room with
  | zero => rfl
  | succ room ih =>
    rw [tallest, height_nullable_iterate, height, heights, heights, ih, Nat.max_zero, maxHeight]

theorem fits_tallest (room : Nat) : Fits room (tallest room) := by
  have hA : IsNameText "A" := ⟨'A', [], rfl, by decide, by simp⟩
  induction room with
  | zero => exact .named hA (by decide)
  | succ room ih =>
    have hg : Fits (room + 1) (.generic "A" [tallest room]) :=
      .generic hA (by simp) (by simpa using ih)
    exact hg.nullable_iterate (Nat.le_of_eq (Nat.zero_add _))

theorem exists_height_parse : ∃ text, (parse text).height = nesting * (nesting + 3) / 2 := by
  refine ⟨(tallest nesting).text, ?_⟩
  rw [parse_of_spelledBy (fits_tallest nesting) (fits_tallest nesting).spelledBy_text,
    ← maxHeight_eq]
  exact height_tallest nesting

/-- A reference is read if its load, not its height, keeps the limit. So every reference that is low
enough is read, and one that is too high may be read as well. -/
theorem height_parse (text : String) :
    (parse text).height ≤ nesting * (nesting + 3) / 2 ∧
      (∀ t room, Fits room t → SpelledBy t text →
        (t.height ≤ nesting → parse text = t) ∧
          ((parse text).height ≤ nesting ↔ t.height ≤ nesting ∨ nesting < t.load)) ∧
      ((∀ t room, Fits room t → ¬SpelledBy t text) →
        parse text = .raw (String.ofList (Unicode.trim text.toList))) := by
  refine ⟨maxHeight_eq nesting ▸ height_parse_le text, fun t room hf hs => ?_,
    fun hn => parse_of_not_spelledBy fun t hw => hn t nesting hw⟩
  have hread (hl : t.load ≤ nesting) : parse text = t := parse_of_spelledBy (hf.of_load_le hl) hs
  refine ⟨fun hh => hread (hf.load_le_height.trans hh), ?_⟩
  by_cases hl : t.load ≤ nesting
  case pos => rw [hread hl, or_iff_left (Nat.not_lt.2 hl)]
  case neg =>
    rcases parse_cases text with ⟨hw, hp⟩ | ⟨hr, -⟩
    · exact (hl (hs.unique hf hp hw ▸ hw.load_le)).elim
    · rw [hr, height]
      simp [Nat.lt_of_not_le hl]

theorem fits_list : Fits (room + 1) (.generic "List" [.keyword "int"]) := by
  have hL : IsNameText "List" := ⟨'L', _, rfl, by decide, List.all_eq_true.1 (by decide)⟩
  exact .generic hL (by simp) (by simpa using .keyword (by decide))

/-- The argument list and 63 suffixes keep the limit. -/
theorem height_parse_nullable :
    let t := nullable^[63] (.generic "List" [.keyword "int"])
    Fits 100 t ∧ SpelledBy t t.text ∧ t.height ≤ nesting ∧ parse t.text = t := by
  intro t
  have hf : Fits 100 t := fits_list.nullable_iterate (by decide)
  have hh : t.height ≤ nesting := Nat.le_of_eq (height_nullable_iterate _ 63)
  have hs := hf.spelledBy_text
  exact ⟨hf, hs, hh, ((height_parse t.text).2.1 t 100 hf hs).1 hh⟩

/-- The argument list and the suffixes behind it are not counted together. -/
theorem nesting_lt_height_parse :
    nesting < height
      (parse "List<int>????????????????????????????????????????????????????????????????") := by
  have hf : Fits nesting (nullable^[64] (.generic "List" [.keyword "int"])) :=
    fits_list.nullable_iterate (by decide)
  have ht : (nullable^[64] (.generic "List" [.keyword "int"])).text =
      "List<int>????????????????????????????????????????????????????????????????" := by
    decide +kernel
  rw [← ht, parse_of_spelledBy hf hf.spelledBy_text, height_nullable_iterate]
  decide

end TripleSlash.TypeRef
