namespace TripleSlash

variable {entries : List (String × α)}

theorem mem_of_lookup (h : entries.lookup n = some a) : (n, a) ∈ entries := by
  obtain ⟨A, B, rfl, -⟩ := List.lookup_eq_some_iff.1 h
  simp

theorem lookup_of_mem (h : (entries.map (·.1)).Nodup) (ha : (n, a) ∈ entries) :
    entries.lookup n = some a := by
  induction entries with
  | nil => cases ha
  | cons e es ih =>
    rw [List.map_cons, List.nodup_cons] at h
    rcases List.mem_cons.1 ha with rfl | ha
    · exact List.lookup_cons_self
    · have hne : n ≠ e.1 := by
        rintro rfl
        exact h.1 (List.mem_map.2 ⟨_, ha, rfl⟩)
      rw [List.lookup_cons, beq_eq_false_iff_ne.2 hne]
      exact ih h.2 ha

end TripleSlash
