import TripleSlash.Datum.Json.Reader
import TripleSlash.Datum.Json.Writer

namespace TripleSlash.Json

theorem natOf?_hexDigit (h : n < 0x20) :
    Decimal.natOf? 16 ['0', '0', hexDigit (n / 16), hexDigit (n % 16)] = some n := by
  decide +revert

theorem single?_of_lt (h : n < 0x20) : single? n = some (Char.ofNat n) := by
  have hn : ¬0xD800 ≤ n := by omega
  have hl : ¬0xDC00 ≤ n := by omega
  simp [single?, isHighSurrogate, isLowSurrogate, hn, hl]

theorem readQuoted_short (he : e ≠ 'u') (h : unescape? e = some c) (cs : List Char) :
    readQuoted ('\\' :: e :: cs) = (readQuoted cs).map (cons (some c)) := by
  rw [readQuoted.eq_4 e cs fun a b c d ds hu _ => he hu, h]

theorem readQuoted_control (h : n < 0x20) (cs : List Char) :
    readQuoted ('\\' :: 'u' :: '0' :: '0' :: hexDigit (n / 16) :: hexDigit (n % 16) :: cs) =
      (readQuoted cs).map (cons (some (Char.ofNat n))) := by
  have hh : isHighSurrogate n = false := by
    have hn : ¬0xD800 ≤ n := by omega
    simp [isHighSurrogate, hn]
  rw [readQuoted.eq_3, natOf?_hexDigit h]
  simp only [hh, Bool.false_and, single?_of_lt h]
  split
  case h_1 => rw [Option.filter_eq_none_iff.2 fun _ _ => Bool.false_ne_true]
  case h_2 => rfl

theorem readQuoted_plain (hq : c ≠ '"') (hb : c ≠ '\\') (hc : ¬c.toNat < 0x20) (cs : List Char) :
    readQuoted (c :: cs) = (readQuoted cs).map (cons (some c)) := by
  rw [readQuoted.eq_5 c cs hq (fun _ _ _ _ _ h _ => hb h) fun _ _ h _ => hb h]
  simp [hb, hc]

theorem eq_ofNat_of_toNat {c : Char} (h : c.toNat = n) : c = Char.ofNat n := by
  rw [← h, Char.ofNat_toNat]

theorem readQuoted_escapeChar (c : Char) (cs : List Char) :
    readQuoted (escapeChar c ++ cs) = (readQuoted cs).map (cons (some c)) := by
  by_cases hq : c = '"'
  · subst hq
    exact readQuoted_short (by decide) rfl cs
  by_cases hs : c = '\\'
  · subst hs
    exact readQuoted_short (by decide) rfl cs
  by_cases hb : c.toNat = 0x08
  · cases eq_ofNat_of_toNat hb
    exact readQuoted_short (by decide) rfl cs
  by_cases hf : c.toNat = 0x0C
  · cases eq_ofNat_of_toNat hf
    exact readQuoted_short (by decide) rfl cs
  by_cases hn : c = '\n'
  · subst hn
    exact readQuoted_short (by decide) rfl cs
  by_cases hr : c = '\r'
  · subst hr
    exact readQuoted_short (by decide) rfl cs
  by_cases ht : c = '\t'
  · subst ht
    exact readQuoted_short (by decide) rfl cs
  by_cases hc : c.toNat < 0x20
  · have he : escapeChar c =
        ['\\', 'u', '0', '0', hexDigit (c.toNat / 16), hexDigit (c.toNat % 16)] := by
      simp [escapeChar, hq, hs, hb, hf, hn, hr, ht, hc]
    rw [he]
    exact (readQuoted_control hc cs).trans (by rw [Char.ofNat_toNat])
  · have he : escapeChar c = [c] := by
      simp [escapeChar, hq, hs, hb, hf, hn, hr, ht, hc]
    rw [he]
    exact readQuoted_plain hq hs hc cs

theorem readQuoted_flatMap (s rest : List Char) :
    readQuoted (s.flatMap escapeChar ++ '"' :: rest) = some (some s, rest) := by
  induction s with
  | nil => rw [List.flatMap_nil, List.nil_append, readQuoted]
  | cons c s ih =>
    rw [List.flatMap_cons, List.append_assoc, readQuoted_escapeChar, ih]
    rfl

end TripleSlash.Json
