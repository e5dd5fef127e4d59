import Mathlib.Data.List.Nodup
import TripleSlash.Lookup
import TripleSlash.Proofs.Files.Writing

namespace TripleSlash

/-- Trees as a machine keeps them: the entries of a directory have names that differ and can be
part of a path. -/
inductive Tree.WellNamed : Tree → Prop
  | file : WellNamed (.file content)
  | directory {es : List (String × Tree)} : (es.map (·.1)).Nodup → (∀ e ∈ es, Path.IsEntry e.1) →
      (∀ e ∈ es, e.2.WellNamed) → WellNamed (.directory es)

theorem Tree.WellNamed.at? {t : Tree} (h : t.WellNamed) (ha : t.at? way = some u) :
    u.WellNamed := by
  induction way generalizing t with
  | nil =>
    cases ha
    exact h
  | cons n ns ih =>
    cases h with
    | file => cases ha
    | directory _ _ hw =>
      obtain ⟨v, hv, ha⟩ := Option.bind_eq_some_iff.1 ha
      exact ih (hw _ (mem_of_lookup hv)) ha

theorem Tree.WellNamed.isEntry_of_at? {t : Tree} (h : t.WellNamed) (ha : t.at? way = some u) :
    ∀ n ∈ way, Path.IsEntry n := by
  induction way generalizing t with
  | nil => simp
  | cons n ns ih =>
    cases h with
    | file => cases ha
    | directory _ he ht =>
      obtain ⟨v, hv, ha⟩ := Option.bind_eq_some_iff.1 ha
      have hm := mem_of_lookup hv
      exact List.forall_mem_cons.2 ⟨he _ hm, ih (ht _ hm) ha⟩

theorem Tree.WellNamed.put {t new : Tree} (h : t.WellNamed) (hn : new.WellNamed)
    (hw : ∀ n ∈ way, Path.IsEntry n) : (t.put new way).WellNamed := by
  induction way generalizing t with
  | nil => exact hn
  | cons n ns ih =>
    rw [List.forall_mem_cons] at hw
    cases h with
    | file => exact .file
    | @directory es hd he ht =>
      rw [Tree.put]
      split
      case isTrue =>
        apply Tree.WellNamed.directory
        · rw [List.map_map, List.map_congr_left fun e _ => ?_]
          · exact hd
          · dsimp only [Function.comp_apply]
            split <;> rfl
        · intro e hm
          obtain ⟨d, hold, rfl⟩ := List.mem_map.1 hm
          dsimp only
          split <;> exact he d hold
        · intro e hm
          obtain ⟨d, hold, rfl⟩ := List.mem_map.1 hm
          dsimp only
          split
          · exact ih (ht d hold) hw.2
          · exact ht d hold
      case isFalse hl =>
        have hnew : n ∉ es.map (·.1) := by
          intro hm
          obtain ⟨e, hold, rfl⟩ := List.mem_map.1 hm
          exact hl (List.lookup_isSome_iff.2 ⟨e, hold, beq_self_eq_true e.1⟩)
        have hmade : ((Tree.directory []).put new ns).WellNamed :=
          ih (.directory List.nodup_nil (by simp) (by simp)) hw.2
        apply Tree.WellNamed.directory
        · rw [List.map_append]
          exact List.Nodup.append hd (by simp) (by simpa using hnew)
        · exact List.forall_mem_append.2 ⟨he, by simpa using hw.1⟩
        · exact List.forall_mem_append.2 ⟨ht, by simpa using hmade⟩

namespace Files

/-- Files whose names can all be part of a path, as are those on the way to the current
directory. -/
structure WellNamed (f : Files) : Prop where
  root : f.root.WellNamed
  here : ∀ n ∈ f.here, Path.IsEntry n

variable {f g : Files} {way parts : List String}

theorem WellNamed.put (h : f.WellNamed) (hn : new.WellNamed) (hw : ∀ n ∈ way, Path.IsEntry n) :
    WellNamed { f with root := f.root.put new way } :=
  ⟨h.root.put hn hw, h.here⟩

theorem isEntry_of_start (h : f.WellNamed) (hs : f.start path = (way, parts)) :
    ∀ n ∈ way, Path.IsEntry n := by
  rw [start] at hs
  split at hs
  · cases hs
    simp
  · cases hs
    exact h.here

theorem WellNamed.makeStep (h : f.WellNamed) (hw : ∀ n ∈ way, Path.IsEntry n)
    (hp : '/' ∉ part.toList) (hs : f.makeStep way part = some (g, way')) :
    g.WellNamed ∧ ∀ n ∈ way', Path.IsEntry n := by
  rw [Files.makeStep] at hs
  split at hs
  · cases hs
    exact ⟨h, hw⟩
  rename_i hi
  split at hs
  · cases hs
    exact ⟨h, fun n hn => hw n (List.dropLast_subset _ hn)⟩
  rename_i hu
  split at hs
  · cases hs
  have hpart : Path.IsEntry part := ⟨by simpa using hi, by simpa using hu, hp⟩
  have hway : ∀ n ∈ way ++ [part], Path.IsEntry n := by
    simpa [or_imp, forall_and] using ⟨hw, hpart⟩
  dsimp only at hs
  split at hs
  · cases hs
    exact ⟨h, hway⟩
  · cases hs
  · cases hs
    exact ⟨h.put (.directory List.nodup_nil (by simp) (by simp)) hway, hway⟩

theorem WellNamed.makeFrom (h : f.WellNamed) (hw : ∀ n ∈ way, Path.IsEntry n)
    (hp : ∀ p ∈ parts, '/' ∉ p.toList) (hs : f.makeFrom way parts = some g) : g.WellNamed := by
  induction parts generalizing f way with
  | nil =>
    cases hs
    exact h
  | cons part parts ih =>
    rw [List.forall_mem_cons] at hp
    rw [Files.makeFrom] at hs
    cases hm : f.makeStep way part with
    | none =>
      rw [hm] at hs
      cases hs
    | some s =>
      rw [hm] at hs
      obtain ⟨hg, hway⟩ := h.makeStep hw hp.1 hm
      exact ih hg hway hp.2 hs

theorem WellNamed.makeDirectory? (h : f.WellNamed) (hs : f.makeDirectory? path = some g) :
    g.WellNamed := by
  apply h.makeFrom (isEntry_of_start h rfl) _ hs
  exact fun p hp => Path.no_slash_of_mem_parts (mem_parts_of_start rfl hp)

theorem WellNamed.write? (h : f.WellNamed) (hs : f.write? path content = some g) :
    g.WellNamed := by
  obtain ⟨origin, parts, way, name, es, -, -, hname, hd, -, rfl⟩ := exists_of_write? hs
  apply h.put .file
  simpa [or_imp, forall_and] using ⟨h.root.isEntry_of_at? hd, hname⟩

end Files

end TripleSlash
