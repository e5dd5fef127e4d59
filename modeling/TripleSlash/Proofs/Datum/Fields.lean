import Mathlib.Data.List.Nodup
import TripleSlash.Datum.Plain

namespace TripleSlash.Datum

theorem mapM_map_eq_some {read : β → Option α} {write : α → β} {as : List α}
    (h : ∀ a ∈ as, read (write a) = some a) : (as.map write).mapM read = some as := by
  induction as with
  | nil => rfl
  | cons a as ih =>
    rw [List.forall_mem_cons] at h
    rw [List.map_cons, List.mapM_cons, h.1, ih h.2]
    rfl

theorem exists_of_mem_mapM {f : β → Option α} {bs : List β} {as : List α}
    (h : bs.mapM f = some as) : ∀ a ∈ as, ∃ b, f b = some a := by
  induction bs generalizing as with
  | nil =>
    cases h
    intro a ha
    cases ha
  | cons b bs ih =>
    rw [List.mapM_cons] at h
    obtain ⟨a, ha, h⟩ := Option.bind_eq_some_iff.1 h
    obtain ⟨rest, hr, h⟩ := Option.bind_eq_some_iff.1 h
    cases h
    exact List.forall_mem_cons.2 ⟨⟨b, ha⟩, ih hr⟩

theorem read_of_optional? {read : Datum → Option α} (h : optional? read v = some (some a)) :
    ∃ d, read d = some a := by
  cases v with
  | none => cases h
  | some d =>
    rw [optional?] at h
    split at h
    case isTrue => cases h
    case isFalse =>
      obtain ⟨b, hb, hs⟩ := Option.map_eq_some_iff.1 h
      cases hs
      exact ⟨d, hb⟩

theorem read_of_orDefault? {read : Datum → Option α} (h : orDefault? std read v = some a) :
    a = std ∨ ∃ d, read d = some a := by
  cases v with
  | none =>
    cases h
    exact .inl rfl
  | some d => exact .inr ⟨d, h⟩

section

variable {fs : Fields}

theorem namedFields?_ofFields (names : List String) (fs : Fields) :
    namedFields? names (fs.map fun (n, v) => (.text n, v)) = some fs := by
  induction fs with
  | nil => rfl
  | cons f fs ih =>
    rw [List.map_cons, namedFields?, ih]
    rfl

theorem Fields.distinct_of_nodup (h : (fs.map (·.1)).Nodup) (names : List String) :
    Fields.distinct names fs = true := by
  rw [distinct, List.all_eq_true]
  intro n _
  have hc : (fs.map (·.1)).count n ≤ 1 := List.nodup_iff_count_le_one.1 h n
  rw [List.count_eq_countP, List.countP_map, List.countP_eq_length_filter] at hc
  exact decide_eq_true hc

theorem recordFields?_ofFields (h : (fs.map (·.1)).Nodup) (names : List String) :
    (ofFields fs).recordFields? names = some fs := by
  rw [ofFields, recordFields?, namedFields?_ofFields, Option.filter_some,
    Fields.distinct_of_nodup h, if_pos rfl]

/-- A record that was written from fields with different names is read as these fields. -/
theorem fields?_ofFields (h : (fs.map (·.1)).Nodup) (names : List String) :
    (ofFields fs).fields? names = some fs :=
  recordFields?_ofFields h names

theorem isKey_text (key name : String) : isKey key (.text name) = (name == key) := by
  simp [isKey, text?]

theorem tagged?_ofFields (h : key ∉ fs.map (·.1)) (tag : Datum) :
    (ofFields ((key, tag) :: fs)).tagged? key = some (tag, ofFields fs) := by
  have hn : ∀ f ∈ fs.map fun (n, v) => (Datum.text n, v), f.1.isKey key = false := by
    intro f hf
    obtain ⟨g, hg, rfl⟩ := List.mem_map.1 hf
    rw [isKey_text, beq_eq_false_iff_ne]
    rintro rfl
    exact h (List.mem_map_of_mem hg)
  have hk : (Datum.text key).isKey key = true := by simp [isKey_text]
  have hf : (fs.map fun (n, v) => (Datum.text n, v)).filter (·.1.isKey key) = [] := by
    rw [List.filter_eq_nil_iff]
    exact fun f hf => by simp [hn f hf]
  have hr : (fs.map fun (n, v) => (Datum.text n, v)).filter (!·.1.isKey key) =
      fs.map fun (n, v) => (.text n, v) := by
    rw [List.filter_eq_self]
    exact fun f hf => by simp [hn f hf]
  simp only [ofFields, tagged?, List.map_cons, List.filter_cons, hk, hf, hr, Bool.not_true,
    Bool.false_eq_true, if_true, if_false]

theorem variant?_ofFields {ks : Kinds} (h : (key :: fs.map (·.1)).Nodup)
    (hk : ks.find? (.text kind) = some (kind, n :: ns)) :
    (ofFields ((key, .text kind) :: fs)).variant? key ks = some (kind, fs) := by
  rw [List.nodup_cons] at h
  simp only [variant?, tagged?_ofFields h.1, hk, fields?_ofFields h.2, Option.map_some]

theorem variant?_ofTag {ks : Kinds} (hk : ks.find? (.text kind) = some (kind, [])) :
    (ofFields [(key, .text kind)]).variant? key ks = some (kind, []) := by
  have ht : (ofFields [(key, .text kind)]).tagged? key = some (.text kind, ofFields []) :=
    tagged?_ofFields (by simp) _
  simp only [variant?, ht, hk]
  rfl

theorem items?_list (vs : List Datum) : (Datum.list vs).items? = some vs := rfl

theorem texts?_list (ss : List String) : (Datum.list (ss.map .text)).texts? = some ss := by
  rw [texts?, items?_list, Option.bind_some]
  exact mapM_map_eq_some fun s _ => rfl

theorem settleItems_eq_some {vs : List Datum} (h : ∀ v ∈ vs, v.settle = some v) :
    settleItems vs = some vs := by
  induction vs with
  | nil => rfl
  | cons v vs ih =>
    rw [List.forall_mem_cons] at h
    rw [settleItems, h.1, ih h.2]
    rfl

theorem settle_list {vs : List Datum} (h : ∀ v ∈ vs, v.settle = some v) :
    (Datum.list vs).settle = some (.list vs) := by
  rw [settle, settleItems_eq_some h, Option.map_some]

theorem settleFields_ofFields (h : ∀ f ∈ fs, f.2.settle = some f.2) :
    settleFields (fs.map fun (n, v) => (.text n, v)) =
      some (fs.map fun (n, v) => (.text n, v)) := by
  induction fs with
  | nil => rfl
  | cons f fs ih =>
    rw [List.forall_mem_cons] at h
    rw [List.map_cons, settleFields, h.1, ih h.2]
    rfl

theorem settle_ofFields (h : ∀ f ∈ fs, f.2.settle = some f.2) :
    (ofFields fs).settle = some (ofFields fs) := by
  rw [ofFields, settle, settleFields_ofFields h, Option.map_some]

theorem settleTagged?_ofFields (hk : key ∉ fs.map (·.1)) (h : ∀ f ∈ fs, f.2.settle = some f.2) :
    (ofFields ((key, .text name) :: fs)).settleTagged? key =
      some (ofFields ((key, .text name) :: fs)) := by
  rw [settleTagged?, tagged?_ofFields hk]
  simp only [Option.bind_eq_bind, Option.bind_some, text?, settle_ofFields h]
  rfl

end

end TripleSlash.Datum
