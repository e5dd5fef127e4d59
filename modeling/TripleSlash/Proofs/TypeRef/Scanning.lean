import Mathlib.Data.List.Chain
import Mathlib.Data.List.TakeWhile
import TripleSlash.TypeRef.Token

namespace TripleSlash.TypeRef.Token

open Unicode

/-- The code points of the blanks. -/
def blankPoints : List Nat :=
  [0x9, 0xA, 0xB, 0xC, 0xD, 0x20, 0x85, 0xA0, 0x1680, 0x2000, 0x2001, 0x2002, 0x2003, 0x2004,
    0x2005, 0x2006, 0x2007, 0x2008, 0x2009, 0x200A, 0x2028, 0x2029, 0x202F, 0x205F, 0x3000]

theorem toNat_mem_blankPoints (h : isBlank c = true) : c.toNat ∈ blankPoints := by
  unfold isBlank at h
  split at h
  case isTrue =>
    have hs : (c == ' ') = true → c.toNat = 0x20 := fun h => by rw [eq_of_beq h]; rfl
    simp only [Bool.or_eq_true, Bool.and_eq_true, decide_eq_true_eq] at h
    simp only [blankPoints, List.mem_cons, List.not_mem_nil, or_false]
    rcases h with h | h
    · have := hs h
      omega
    · omega
  case isFalse =>
    simp only [inRuns, whiteSpaceRuns, Run.contains, List.any_cons, List.any_nil, Bool.or_false,
      Bool.or_eq_true, Bool.and_eq_true, decide_eq_true_eq] at h
    simp only [blankPoints, List.mem_cons, List.not_mem_nil, or_false]
    omega

theorem not_isNameChar_of_isBlank (h : isBlank c = true) :
    (isAlphanumeric c || c == '_' || c == '@') = false := by
  have hb : ∀ n ∈ blankPoints,
      (isAlphanumeric (Char.ofNat n) || Char.ofNat n == '_' || Char.ofNat n == '@') = false := by
    decide +kernel
  have hc := hb _ (toNat_mem_blankPoints h)
  rwa [Char.ofNat_toNat] at hc

theorem continuesName_eq_false_of_isBlank (h : isBlank c = true) : continuesName c = false := by
  have hc := not_isNameChar_of_isBlank h
  rw [Bool.or_eq_false_iff] at hc
  exact hc.1

theorem isBlank_eq_false_of_startsName (h : startsName c = true) : isBlank c = false := by
  cases hb : isBlank c with
  | false => rfl
  | true =>
    have hc := not_isNameChar_of_isBlank hb
    simp only [isAlphanumeric, startsName, Bool.or_eq_false_iff] at h hc
    simp [hc] at h

/-- The text of a token. -/
def chars : Token → List Char
  | name n => n.toList
  | less => ['<']
  | greater => ['>']
  | comma => [',']
  | dot => ['.']
  | question => ['?']
  | openBracket => ['[']
  | closeBracket => [']']

def isName : Token → Bool
  | name _ => true
  | _ => false

/-- Whether a text is a name: a letter, `_` or `@`, and then letters, digits and `_`. -/
def IsNameText (n : String) : Prop :=
  ∃ c cs, n.toList = c :: cs ∧ startsName c = true ∧ ∀ d ∈ cs, continuesName d = true

/-- The text has the tokens in this order and blanks anywhere between and around them. -/
inductive Spaced : List Token → List Char → Prop
  | nil : Spaced [] []
  | blank : isBlank c = true → Spaced ts cs → Spaced ts (c :: cs)
  | token : Spaced ts cs → Spaced (t :: ts) (t.chars ++ cs)

theorem Spaced.append (h : Spaced ts cs) (h' : Spaced us ds) : Spaced (ts ++ us) (cs ++ ds) := by
  induction h with
  | nil => exact h'
  | blank hc _ ih => exact .blank hc ih
  | token _ ih =>
    rw [List.append_assoc]
    exact .token ih

theorem Spaced.of_blanks (h : ∀ c ∈ cs, isBlank c = true) : Spaced [] cs := by
  induction cs with
  | nil => exact .nil
  | cons c cs ih =>
    exact .blank (h c List.mem_cons_self) (ih fun d hd => h d (List.mem_cons_of_mem c hd))

theorem Spaced.single (t : Token) : Spaced [t] t.chars := by
  simpa using Spaced.token (t := t) .nil

/-- Tokens that can be told apart in a text: the names are names, and no two of them stand side by
side. -/
structure Scannable (ts : List Token) : Prop where
  names : ∀ n, name n ∈ ts → IsNameText n
  apart : ts.IsChain fun t u => t.isName = false ∨ u.isName = false

theorem Scannable.nil : Scannable [] := ⟨by simp, .nil⟩

theorem Scannable.name (h : IsNameText n) : Scannable [.name n] :=
  ⟨by simpa using h, .singleton _⟩

theorem Scannable.append_symbol (hs : s.isName = false) (ht : Scannable ts) (hu : Scannable us) :
    Scannable (ts ++ s :: us) := by
  constructor
  · intro n hn
    rcases List.mem_append.1 hn with hn | hn
    · exact ht.names n hn
    · rcases List.mem_cons.1 hn with rfl | hn
      · cases hs
      · exact hu.names n hn
  · apply ht.apart.append (hu.apart.cons fun u _ => .inl hs)
    intro t _ u hu
    cases hu
    exact .inr hs

theorem Scannable.cons_symbol (hs : s.isName = false) (ht : Scannable ts) : Scannable (s :: ts) :=
  .append_symbol hs .nil ht

theorem chars_of_ofSymbol? (h : ofSymbol? c = some t) : t.chars = [c] ∧ t.isName = false := by
  unfold ofSymbol? at h
  split at h <;> cases h <;> exact ⟨rfl, rfl⟩

theorem exists_name (h : isName t = true) : ∃ n, t = name n := by
  cases t with
  | name n => exact ⟨n, rfl⟩
  | _ => cases h

theorem exists_symbol (h : t.isName = false) :
    ∃ c, t.chars = [c] ∧ ofSymbol? c = some t ∧ isBlank c = false ∧ startsName c = false ∧
      continuesName c = false := by
  cases t with
  | name => cases h
  | _ => exact ⟨_, rfl, rfl, by decide, by decide, by decide⟩

theorem spaced_of_scan (h : scan cs = some ts) :
    Spaced ts cs ∧ ∀ n, name n ∈ ts → IsNameText n := by
  induction cs using scan.induct generalizing ts with
  | case1 =>
    rw [scan] at h
    cases h
    exact ⟨.nil, by simp⟩
  | case2 c cs hb ih =>
    rw [scan, if_pos hb] at h
    exact ⟨.blank hb (ih h).1, (ih h).2⟩
  | case3 c cs hb hs ih =>
    rw [scan, if_neg hb, if_pos hs] at h
    obtain ⟨us, hu, rfl⟩ := Option.map_eq_some_iff.1 h
    obtain ⟨hsp, hv⟩ := ih hu
    have ht := Spaced.token (t := name (String.ofList (c :: cs.takeWhile continuesName))) hsp
    refine ⟨?_, fun n hn => ?_⟩
    · simpa [chars, List.takeWhile_append_dropWhile] using ht
    · rcases List.mem_cons.1 hn with hn | hn
      · cases hn
        exact ⟨c, _, String.toList_ofList, hs, fun d hd => List.mem_takeWhile_imp hd⟩
      · exact hv n hn
  | case4 c cs hb hs ih =>
    rw [scan, if_neg hb, if_neg hs] at h
    obtain ⟨t, ht, h⟩ := Option.bind_eq_some_iff.1 h
    obtain ⟨us, hu, rfl⟩ := Option.map_eq_some_iff.1 h
    obtain ⟨hsp, hv⟩ := ih hu
    obtain ⟨hc, hn⟩ := chars_of_ofSymbol? ht
    refine ⟨?_, fun n hm => ?_⟩
    · simpa [hc] using Spaced.token (t := t) hsp
    · rcases List.mem_cons.1 hm with rfl | hm
      · cases hn
      · exact hv n hm

theorem Spaced.dropWhile_continuesName (h : Spaced ts cs) (ht : ∀ t ∈ ts.head?, t.isName = false) :
    cs.takeWhile continuesName = [] ∧ cs.dropWhile continuesName = cs := by
  cases h with
  | nil => exact ⟨rfl, rfl⟩
  | blank hc => simp [continuesName_eq_false_of_isBlank hc]
  | @token ts cs t h =>
    obtain ⟨c, hc, -, -, -, hn⟩ := exists_symbol (ht t rfl)
    simp [hc, hn]

/-- Tokens with blanks among them are scanned as they are. -/
theorem scan_of_spaced (h : Spaced ts cs) (hs : Scannable ts) : scan cs = some ts := by
  induction h with
  | nil => rw [scan]
  | blank hc _ ih => rw [scan, if_pos hc, ih hs]
  | @token ts cs t h ih =>
    obtain ⟨ht, ha⟩ := List.isChain_cons.1 hs.apart
    have hs' : Scannable ts := ⟨fun n hn => hs.names n (List.mem_cons_of_mem t hn), ha⟩
    cases hn : t.isName with
    | true =>
      obtain ⟨n, rfl⟩ := exists_name hn
      obtain ⟨c, ds, hc, hsn, hds⟩ := hs.names n List.mem_cons_self
      have hd := h.dropWhile_continuesName fun u hu => (ht u hu).resolve_left (by simp [isName])
      have hb : ¬isBlank c = true := by simp [isBlank_eq_false_of_startsName hsn]
      rw [chars, hc, List.cons_append, scan, if_neg hb, if_pos hsn,
        List.takeWhile_append_of_pos hds, List.dropWhile_append_of_pos hds, hd.1, hd.2,
        List.append_nil, ← hc, String.ofList_toList, ih hs']
      rfl
    | false =>
      obtain ⟨c, hc, ht, hb, hsn, -⟩ := exists_symbol hn
      rw [hc, List.singleton_append, scan, if_neg (by simp [hb]), if_neg (by simp [hsn]), ht,
        ih hs']
      rfl

end TripleSlash.TypeRef.Token
