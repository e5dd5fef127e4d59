import TripleSlash.Proofs.Datum.Fields

namespace TripleSlash.Datum

/-- Data as records are written: nulls, truth values and texts in lists and records that nest no
deeper than given. -/
inductive Encoded : Nat → Datum → Prop
  | null : Encoded depth .null
  | bool : Encoded depth (.bool b)
  | text : Encoded depth (.text s)
  | list {vs : List Datum} : (∀ v ∈ vs, Encoded depth v) → Encoded (depth + 1) (.list vs)
  | record {fs : Fields} : (∀ f ∈ fs, Encoded depth f.2) → Encoded (depth + 1) (ofFields fs)

theorem Encoded.map_list {write : α → Datum} {as : List α}
    (h : ∀ a ∈ as, Encoded depth (write a)) : Encoded (depth + 1) (.list (as.map write)) := by
  apply Encoded.list
  intro v hv
  obtain ⟨a, ha, rfl⟩ := List.mem_map.1 hv
  exact h a ha

theorem Encoded.settle (h : Encoded depth d) : d.settle = some d := by
  induction h with
  | null | bool | text => rfl
  | list _ ih => exact settle_list ih
  | record _ ih => exact settle_ofFields ih

theorem pruneItems_eq_self {vs : List Datum} (h : ∀ v ∈ vs, v.prune limit = v) :
    pruneItems limit vs = vs := by
  induction vs with
  | nil => rfl
  | cons v vs ih =>
    rw [List.forall_mem_cons] at h
    rw [pruneItems, h.1, ih h.2]

theorem pruneFields_eq_self {fs : Fields} (h : ∀ f ∈ fs, f.2.prune limit = f.2) :
    pruneFields limit (fs.map fun (n, v) => (.text n, v)) = fs.map fun (n, v) => (.text n, v) := by
  induction fs with
  | nil => rfl
  | cons f fs ih =>
    rw [List.forall_mem_cons] at h
    have hk : (Datum.text f.1).prune limit = .text f.1 := by cases limit <;> rfl
    rw [List.map_cons, pruneFields, hk, h.1, ih h.2]

theorem Encoded.prune (h : Encoded depth d) (hl : depth ≤ limit) : d.prune limit = d := by
  induction h generalizing limit with
  | null | bool | text => cases limit <;> rfl
  | list _ ih =>
    cases limit with
    | zero => omega
    | succ limit =>
      rw [Datum.prune, pruneItems_eq_self fun v hv => ih v hv (by omega)]
  | record _ ih =>
    cases limit with
    | zero => omega
    | succ limit =>
      rw [ofFields, Datum.prune, pruneFields_eq_self fun f hf => ih f hf (by omega)]

end TripleSlash.Datum
