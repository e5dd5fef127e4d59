import TripleSlash.Proofs.Comment.Escaping
import TripleSlash.Proofs.TypeRef.RoundTrip
import TripleSlash.Prose.Content

namespace TripleSlash

namespace Text

theorem replace_eq_map (ho : old.toList = [a]) (hn : new.toList = [b]) (cs : List Char) :
    replace old new cs = cs.map fun c => if c = a then b else c := by
  rw [replace_eq_flatMap ho, hn, List.map_eq_flatMap]
  refine List.flatMap_congr fun c _ => ?_
  split <;> rfl

theorem replace_append_of_notMem (ho : old.toList = a :: as) (h : a ∉ cs) (new : String)
    (ds : List Char) : replace old new (cs ++ ds) = cs ++ replace old new ds := by
  induction cs with
  | nil => rfl
  | cons c cs ih =>
    rw [List.mem_cons, not_or] at h
    have hp : ¬old.toList.isPrefixOf (c :: (cs ++ ds)) = true := by simp [ho, h.1]
    rw [List.cons_append, replace, replaceFrom, if_neg hp]
    exact congrArg (c :: ·) (ih h.2)

theorem replace_comma_space (cs : List Char) :
    replace ", " "," (',' :: ' ' :: cs) = ',' :: replace ", " "," cs := rfl

end Text

namespace TypeRef

open Token

theorem Token.IsNameText.notMem (h : IsNameText n) (hs : startsName c = false)
    (hc : continuesName c = false) : c ∉ n.toList := by
  obtain ⟨d, ds, hn, hd, hds⟩ := h
  rw [hn, List.mem_cons, not_or]
  refine ⟨?_, fun hm => ?_⟩
  · rintro rfl
    simp [hd] at hs
  · simp [hds c hm] at hc

/-- Characters that no token has. -/
def foreign : List Char := ['&', '"', ' ', '\x7b', '\x7d']

section

variable {ts : List Token}

theorem notMem_chars {t : Token} (hn : ∀ n, t = .name n → IsNameText n) (hc : c ∈ foreign) :
    c ∉ t.chars := by
  cases t with
  | name n =>
    have hf : foreign.all (fun c => !startsName c && !continuesName c) = true := by decide +kernel
    have hc := List.all_eq_true.1 hf c hc
    simp only [Bool.and_eq_true, Bool.not_eq_true'] at hc
    exact (hn n rfl).notMem hc.1 hc.2
  | _ =>
    intro hm
    rw [List.mem_singleton.1 hm] at hc
    exact absurd hc (by decide)

theorem comma_notMem_chars {t : Token} (hn : ∀ n, t = .name n → IsNameText n) (ht : t ≠ .comma) :
    ',' ∉ t.chars := by
  cases t with
  | name n => exact (hn n rfl).notMem (by decide) (by decide)
  | comma => exact (ht rfl).elim
  | _ => decide

theorem replace_flatMap_plain (h : ∀ n, .name n ∈ ts → IsNameText n) :
    Text.replace ", " "," (ts.flatMap plain) = ts.flatMap chars := by
  induction ts with
  | nil => rfl
  | cons t ts ih =>
    have ih := ih fun n hn => h n (List.mem_cons_of_mem t hn)
    rw [List.flatMap_cons, List.flatMap_cons]
    by_cases hc : t = .comma
    · subst hc
      exact (Text.replace_comma_space _).trans (congrArg (',' :: ·) ih)
    · have hp : t.plain = t.chars := by
        cases t with
        | comma => exact (hc rfl).elim
        | _ => rfl
      have hn : ',' ∉ t.chars :=
        comma_notMem_chars (fun n hn => h n (hn ▸ List.mem_cons_self)) hc
      rw [hp, Text.replace_append_of_notMem rfl hn, ih]

end

/-- What stands in a cross-reference for a character of a spelling. -/
def brace (c : Char) : Char := if c = '<' then '\x7b' else if c = '>' then '\x7d' else c

/-- A cross-reference with its braces read as angle brackets. -/
def unbrace (cref : String) : String :=
  String.ofList (Text.replace "\x7d" ">" (Text.replace "\x7b" "<" cref.toList))

theorem toList_cref (t : TypeRef) :
    t.cref.toList = (Text.replace ", " "," t.text.toList).map brace := by
  rw [cref, String.toList_ofList, Text.replace_eq_map (a := '>') (b := '\x7d') rfl rfl,
    Text.replace_eq_map (a := '<') (b := '\x7b') rfl rfl, List.map_map]
  refine List.map_congr_left fun c _ => ?_
  simp only [Function.comp_apply, brace]
  by_cases hc : c = '<'
  · rw [if_pos hc, if_pos hc, if_neg (by decide)]
  · rw [if_neg hc, if_neg hc]

theorem toList_unbrace_of_map_brace {cs : List Char} (hs : s.toList = cs.map brace)
    (hf : ∀ c ∈ foreign, c ∉ cs) : (unbrace s).toList = cs := by
  have hu : (unbrace s).toList = cs.map fun c =>
      if (if brace c = '\x7b' then '<' else brace c) = '\x7d' then '>'
      else if brace c = '\x7b' then '<' else brace c := by
    rw [unbrace, String.toList_ofList, Text.replace_eq_map (a := '\x7d') (b := '>') rfl rfl,
      Text.replace_eq_map (a := '\x7b') (b := '<') rfl rfl, hs, List.map_map, List.map_map]
    rfl
  rw [hu]
  refine (List.map_congr_left fun c hc => ?_).trans (List.map_id cs)
  have hl : c ≠ '\x7b' := fun h => hf _ (by decide) (h ▸ hc)
  have hr : c ≠ '\x7d' := fun h => hf _ (by decide) (h ▸ hc)
  unfold brace
  by_cases hc : c = '<'
  · simp [hc]
  · by_cases hc' : c = '>' <;> simp [hc, hc', hl, hr]

/-- A cross-reference is the text of the tokens that spell the type, with braces for its angle
brackets. -/
theorem Fits.exists_cref (h : Fits room t) :
    ∃ cs : List Char, t.cref.toList = cs.map brace ∧ SpelledBy t (String.ofList cs) ∧
      ∀ c ∈ foreign, c ∉ cs := by
  obtain ⟨ts, hs, ht⟩ := h.exists_plain
  have hn := (h.scannable hs).names
  refine ⟨ts.flatMap chars, ?_, ⟨ts, hs, ?_⟩, fun c hc hm => ?_⟩
  · rw [toList_cref, ht, replace_flatMap_plain hn]
  · rw [String.toList_ofList]
    exact spaced_flatMap (fun t => ⟨[], (List.append_nil t.chars).symm, by simp⟩) ts
  · obtain ⟨u, hu, hm⟩ := List.mem_flatMap.1 hm
    exact notMem_chars (fun n hn' => hn n (hn' ▸ hu)) hc hm

theorem brace_notMem (hc : c ∉ foreign) : brace c ∉ ['<', '>', '&', '"', ' '] := by
  unfold brace
  split
  case isTrue => decide
  case isFalse hl =>
    split
    case isTrue => decide
    case isFalse hg =>
      simp only [foreign, List.mem_cons, List.not_mem_nil, or_false, not_or] at hc ⊢
      exact ⟨hl, hg, hc.1, hc.2.1, hc.2.2.1⟩

theorem notMem_cref (h : WellFormed t) (hc : c ∈ ['<', '>', '&', '"', ' ']) :
    c ∉ t.cref.toList := by
  obtain ⟨cs, he, -, hf⟩ := h.exists_cref
  rw [he, List.mem_map]
  rintro ⟨d, hd, rfl⟩
  exact brace_notMem (fun hm => hf d hm hd) hc

theorem parse_unbrace_cref (h : WellFormed t) : parse (unbrace t.cref) = t := by
  obtain ⟨cs, hc, hs, hf⟩ := h.exists_cref
  have hu : unbrace t.cref = String.ofList cs :=
    String.toList_inj.1 ((toList_unbrace_of_map_brace hc hf).trans String.toList_ofList.symm)
  exact parse_of_spelledBy h (hu ▸ hs)

theorem escapeAttribute_cref (h : WellFormed t) : Markup.escapeAttribute t.cref = t.cref := by
  have hs : ∀ c ∈ Markup.special true, c ∈ ['<', '>', '&', '"', ' '] := by
    simp [Markup.special, Markup.entities]
  exact Markup.escapeAttribute_eq_self fun c hc => notMem_cref h (hs c hc)

theorem wellFormed_parse (h : ∀ kept, parse s ≠ .raw kept) : WellFormed (parse s) := by
  rcases parse_cases s with ⟨hw, -⟩ | ⟨hr, -⟩
  · exact hw
  · exact (h _ hr).elim

/-- The cross-reference of a type that is read from a text names this type alone, and it is written
into a comment as it is. -/
theorem parse_unbrace_cref_parse (text : String) (h : ∀ kept, parse text ≠ .raw kept) :
    (∀ c ∈ ['<', '>', '&', '"', ' '], c ∉ (parse text).cref.toList) ∧
      parse (unbrace (parse text).cref) = parse text ∧
      (∀ other, (∀ kept, parse other ≠ .raw kept) → (parse other).cref = (parse text).cref →
        parse other = parse text) ∧
      ∀ br content, (Node.exception (parse text).cref content).markup br =
        "<exception cref=\"" ++ (parse text).cref ++ "\">" ++ Inline.markups content ++
          "</exception>" := by
  have hw := wellFormed_parse h
  refine ⟨fun c hc => notMem_cref hw hc, parse_unbrace_cref hw, fun other ho he => ?_,
    fun br content => ?_⟩
  · rw [← parse_unbrace_cref (wellFormed_parse ho), he, parse_unbrace_cref hw]
  · rw [← String.toList_inj]
    simp [Node.markup, Markup.element, Markup.attr, escapeAttribute_cref hw]

theorem parse_unbrace_cref_parse_error :
    let text := "System.Error< int,List<string>[] >"
    let other := "System.Error<int, string[]>"
    (∀ kept, parse text ≠ .raw kept) ∧
      (parse text).cref = "System.Error\x7bint,List\x7bstring\x7d[]\x7d" ∧
      parse "System.Error<int,List<string>[]>" = parse text ∧
      (∀ kept, parse other ≠ .raw kept) ∧ (parse other).cref ≠ (parse text).cref := by
  intro text other
  have hts : Token.scan text.toList = some [.name "System", .dot, .name "Error", .less,
      .name "int", .comma, .name "List", .less, .name "string", .greater, .openBracket,
      .closeBracket, .greater] := by decide +kernel
  have hos : Token.scan other.toList = some [.name "System", .dot, .name "Error", .less,
      .name "int", .comma, .name "string", .openBracket, .closeBracket, .greater] := by
    decide +kernel
  have ht : parse text = .dotted [.named "System",
      .generic "Error" [.keyword "int", .array (.generic "List" [.keyword "string"])]] :=
    parse_of_read hts rfl
  have ho : parse other = .dotted [.named "System",
      .generic "Error" [.keyword "int", .array (.keyword "string")]] :=
    parse_of_read hos rfl
  have hkept : ∀ kept, parse text ≠ .raw kept := by simp [ht]
  have hkept' : ∀ kept, parse other ≠ .raw kept := by simp [ho]
  have hcref : (parse text).cref = "System.Error\x7bint,List\x7bstring\x7d[]\x7d" := by
    rw [ht]
    decide +kernel
  have hu : unbrace "System.Error\x7bint,List\x7bstring\x7d[]\x7d" =
      "System.Error<int,List<string>[]>" := by decide +kernel
  obtain ⟨-, hparse, hinj, -⟩ := parse_unbrace_cref_parse text hkept
  rw [hcref, hu] at hparse
  refine ⟨hkept, hcref, hparse, hkept', fun he => ?_⟩
  have hto := hinj other hkept' he
  simp [ht, ho] at hto

end TypeRef

end TripleSlash
