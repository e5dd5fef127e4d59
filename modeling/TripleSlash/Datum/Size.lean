import TripleSlash.Datum.Basic
import TripleSlash.Lookup

namespace TripleSlash.Datum

theorem sizeOf_lt_of_mem_record {fs : List (Datum × Datum)} (h : (k, v) ∈ fs) :
    sizeOf v < sizeOf (Datum.record fs) := by
  have := List.sizeOf_lt_of_mem h
  simp at this ⊢
  omega

theorem sizeOf_lt_of_mem_list {vs : List Datum} (h : v ∈ vs) :
    sizeOf v < sizeOf (Datum.list vs) := by
  have := List.sizeOf_lt_of_mem h
  simp
  omega

theorem mem_of_namedFields {fs : List (Datum × Datum)} (h : namedFields? names fs = some gs)
    (hv : (n, v) ∈ gs) : ∃ k, (k, v) ∈ fs := by
  induction fs generalizing gs with
  | nil => cases h; cases hv
  | cons f fs ih =>
    obtain ⟨k, w⟩ := f
    unfold namedFields? at h
    split at h
    · next hn hs =>
      cases h
      cases hv with
      | head => exact ⟨k, List.mem_cons_self⟩
      | tail _ hv =>
        obtain ⟨k, hk⟩ := ih hs hv
        exact ⟨k, List.mem_cons_of_mem _ hk⟩
    · cases h

theorem mem_of_recordFields {fs : List (Datum × Datum)}
    (h : (Datum.record fs).recordFields? names = some gs) (hv : (n, v) ∈ gs) :
    ∃ k, (k, v) ∈ fs :=
  mem_of_namedFields (Option.filter_eq_some_iff.1 h).1 hv

theorem sizeOf_lt_of_fields {d : Datum} (h : d.fields? names = some fs) (hv : (n, v) ∈ fs) :
    sizeOf v < sizeOf d := by
  unfold fields? at h
  split at h
  · split at h
    · cases h; exact sizeOf_lt_of_mem_list (List.of_mem_zip hv).2
    · cases h
  · cases h; cases hv
  · cases d with
    | record gs =>
      obtain ⟨k, hk⟩ := mem_of_recordFields h hv
      exact sizeOf_lt_of_mem_record hk
    | _ => cases h

theorem sizeOf_lt_of_tagged {d : Datum} (ht : d.tagged? key = some (tag, rest))
    (h : rest.fields? names = some fs) (hv : (n, v) ∈ fs) : sizeOf v < sizeOf d := by
  unfold tagged? at ht
  split at ht
  · split at ht
    · cases ht
      obtain ⟨k, hk⟩ := mem_of_recordFields h hv
      exact sizeOf_lt_of_mem_record (List.mem_filter.1 hk).1
    · cases ht
  all_goals cases ht
  all_goals
    have := sizeOf_lt_of_fields h hv
    simp at this ⊢
    omega

theorem sizeOf_lt_of_variant {d : Datum} (h : d.variant? key ks = some (kind, fs))
    (hv : fs.lookup n = some v) : sizeOf v < sizeOf d := by
  have hm := mem_of_lookup hv
  unfold variant? at h
  split at h
  · cases h
  · next tag rest ht =>
    split at h
    · cases h
    · obtain ⟨gs, hg, he⟩ := Option.map_eq_some_iff.1 h
      cases he
      unfold noFields? at hg
      split at hg
      all_goals cases hg
      all_goals cases hm
    · obtain ⟨gs, hg, he⟩ := Option.map_eq_some_iff.1 h
      cases he
      exact sizeOf_lt_of_tagged ht hg hm

end TripleSlash.Datum
