import TripleSlash.Proofs.TypeRef.Scanning
import TripleSlash.TypeRef.Grammar

namespace TripleSlash.TypeRef

open Token

/-- How many suffixes the reference carries. -/
def suffixCount : TypeRef → Nat
  | .array e | .nullable e => e.suffixCount + 1
  | _ => 0

/-- Whether the reference may stand between dots. -/
def isSegment : TypeRef → Bool
  | .named _ | .generic _ _ => true
  | _ => false

/-- The references with room for so many suffixes and for so many argument lists in one another;
every argument list leaves room for one less inside. -/
inductive Fits : Nat → TypeRef → Prop
  | keyword : t ∈ keywords → Fits room (.keyword t)
  | named : IsNameText t → t ∉ keywords → Fits room (.named t)
  | dotted : 2 ≤ ss.length → (∀ s ∈ ss, s.isSegment = true) → (∀ s ∈ ss, Fits room s) →
      Fits room (.dotted ss)
  | generic : IsNameText c → as ≠ [] → (∀ a ∈ as, Fits room a) → Fits (room + 1) (.generic c as)
  | array : Fits room e → e.suffixCount < room → Fits room (.array e)
  | nullable : Fits room e → e.suffixCount < room → Fits room (.nullable e)

/-- The references that have a spelling and do not nest too deep. -/
def WellFormed (t : TypeRef) : Prop := Fits nesting t

/-- Tokens of the items in order, with a separator between each two. -/
inductive Joined (P : α → List Token → Prop) (sep : Token) : List α → List Token → Prop
  | single : P a ts → Joined P sep [a] ts
  | cons : P a ts → Joined P sep as us → Joined P sep (a :: as) (ts ++ sep :: us)

/-- The tokens that spell a reference. -/
inductive Spells : TypeRef → List Token → Prop
  | keyword : Spells (.keyword t) [.name t]
  | named : Spells (.named t) [.name t]
  | dotted : Joined Spells .dot ss ts → Spells (.dotted ss) ts
  | generic : Joined Spells .comma as ts →
      Spells (.generic c as) (.name c :: .less :: (ts ++ [.greater]))
  /-- Any number of commas may stand in the brackets. -/
  | array (n : Nat) : Spells e ts →
      Spells (.array e) (ts ++ .openBracket :: (List.replicate n .comma ++ [.closeBracket]))
  | nullable : Spells e ts → Spells (.nullable e) (ts ++ [.question])

/-- Whether a text spells the reference, blanks left aside. -/
def SpelledBy (t : TypeRef) (text : String) : Prop := ∃ ts, Spells t ts ∧ Spaced ts text.toList

theorem isNameText_of_mem_keywords (h : t ∈ keywords) : IsNameText t := by
  have hk : ∀ k ∈ keywords,
      (k.toList.head?.any startsName && k.toList.tail.all continuesName) = true := by decide
  have ht := hk t h
  cases hc : t.toList with
  | nil => simp [hc] at ht
  | cons c cs =>
    simp only [hc, List.head?_cons, Option.any_some, List.tail_cons, Bool.and_eq_true,
      List.all_eq_true] at ht
    exact ⟨c, cs, hc, ht⟩

theorem Joined.scannable (h : Joined P sep as ts) (hs : sep.isName = false)
    (ha : ∀ a ∈ as, ∀ us, P a us → Scannable us) : Scannable ts := by
  induction h with
  | @single a ts h => exact ha a List.mem_cons_self ts h
  | @cons a ts as us h _ ih =>
    exact .append_symbol hs (ha a List.mem_cons_self ts h)
      (ih fun b hb => ha b (List.mem_cons_of_mem a hb))

theorem scannable_commas (hs : s.isName = false) (n : Nat) :
    Scannable (List.replicate n .comma ++ [s]) := by
  induction n with
  | zero => exact .cons_symbol hs .nil
  | succ n ih => exact .cons_symbol rfl ih

theorem Fits.scannable (h : Fits room t) (hs : Spells t ts) : Scannable ts := by
  induction h generalizing ts with
  | keyword hk =>
    cases hs
    exact .name (isNameText_of_mem_keywords hk)
  | named hn =>
    cases hs
    exact .name hn
  | dotted _ _ _ ih =>
    cases hs with
    | dotted hj => exact hj.scannable rfl fun s hm us hu => ih s hm hu
  | generic hc _ _ ih =>
    cases hs with
    | generic hj =>
      have ha := hj.scannable rfl fun a hm us hu => ih a hm hu
      exact (Scannable.name hc).append_symbol rfl (ha.append_symbol rfl .nil)
  | array _ _ ih =>
    cases hs with
    | array n he => exact .append_symbol rfl (ih he) (scannable_commas rfl n)
  | nullable _ _ ih =>
    cases hs with
    | nullable he => exact .append_symbol rfl (ih he) .nil

end TripleSlash.TypeRef
