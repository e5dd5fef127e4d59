import Mathlib.Data.List.Basic
import TripleSlash.Proofs.Files.Paths

namespace TripleSlash.Files

/-- All files but those at some ways are the same before and after, with the same contents. -/
def ChangedOnlyAt (ways : List (List String)) (before after : Files) : Prop :=
  ∀ way, way ∉ ways → after.root.content? way = before.root.content? way

variable {f g h : Files} {ways : List (List String)} {way parts : List String}

theorem ChangedOnlyAt.refl (ways : List (List String)) (f : Files) : ChangedOnlyAt ways f f :=
  fun _ _ => rfl

theorem ChangedOnlyAt.trans (hf : ChangedOnlyAt ways f g) (hg : ChangedOnlyAt ways g h) :
    ChangedOnlyAt ways f h :=
  fun way hw => (hg way hw).trans (hf way hw)

theorem ChangedOnlyAt.mono (hf : ChangedOnlyAt [] f g) (ways : List (List String)) :
    ChangedOnlyAt ways f g :=
  fun way _ => hf way List.not_mem_nil

theorem ChangedOnlyAt.of_makeStep (h : f.makeStep way part = some (g, way')) :
    ChangedOnlyAt [] f g := by
  rw [makeStep] at h
  split at h
  · cases h
    exact .refl [] _
  split at h
  · cases h
    exact .refl [] _
  split at h
  · cases h
  · dsimp only at h
    split at h
    · cases h
      exact .refl [] _
    · cases h
    · rename_i hn
      cases h
      exact fun vs _ => Tree.content?_put_directory hn vs

theorem ChangedOnlyAt.of_makeFrom (h : f.makeFrom way parts = some g) : ChangedOnlyAt [] f g := by
  induction parts generalizing f way with
  | nil =>
    cases h
    exact .refl [] _
  | cons part parts ih =>
    rw [makeFrom] at h
    cases hs : f.makeStep way part with
    | none =>
      rw [hs] at h
      cases h
    | some s =>
      rw [hs] at h
      exact (of_makeStep hs).trans (ih h)

theorem ChangedOnlyAt.of_makeDirectory? (h : f.makeDirectory? path = some g) :
    ChangedOnlyAt [] f g :=
  of_makeFrom h

/-- What it takes to put a file at a path, and what comes of it. -/
theorem exists_of_write? (h : f.write? path content = some g) :
    ∃ origin parts way name es, f.start path = (origin, parts ++ [name]) ∧
      parts.foldlM f.follow? origin = some way ∧ Path.IsEntry name ∧
      f.root.at? way = some (.directory es) ∧
      (∀ gs, f.root.at? (way ++ [name]) ≠ some (.directory gs)) ∧
      g = { f with root := f.root.put (.file content) (way ++ [name]) } := by
  rw [write?] at h
  cases hs : f.start path with | mk origin parts
  simp only [hs] at h
  split at h
  case h_2 => cases h
  case h_1 name way hl hf =>
    split at h
    case isTrue => cases h
    case isFalse hname =>
      simp only [Bool.or_eq_true, not_or, Bool.not_eq_true, beq_eq_false_iff_ne] at hname
      have hp : parts = parts.dropLast ++ [name] :=
        (List.dropLast_append_getLast? name hl).symm
      have hmem := mem_parts_of_start hs (List.mem_of_getLast? hl)
      have hname : Path.IsEntry name := ⟨hname.1.1, hname.1.2, Path.no_slash_of_mem_parts hmem⟩
      split at h
      · rename_i hd hn
        cases h
        exact ⟨origin, _, way, name, _, by rw [← hp], hf, hname, hd, by simp [hn], rfl⟩
      · rename_i hd hn
        cases h
        exact ⟨origin, _, way, name, _, by rw [← hp], hf, hname, hd, by simp [hn], rfl⟩
      · cases h

theorem follow?_put (hn : ∀ es, f.root.at? target ≠ some (.directory es)) (new : Tree)
    (h : f.follow? way part = some way') :
    { f with root := f.root.put new target }.follow? way part = some way' := by
  obtain ⟨es, hd⟩ := directory_of_follow? h
  obtain ⟨gs, hg, hl⟩ := Tree.exists_at?_put new (Tree.not_prefix_of_directory hn hd) hd
  have hg : { f with root := f.root.put new target }.root.at? way = some (.directory gs) := hg
  rw [follow?_of_directory hd] at h
  rw [follow?_of_directory hg]
  split
  case isTrue hi => rwa [if_pos hi] at h
  case isFalse hi =>
    rw [if_neg hi] at h
    split
    case isTrue hu => rwa [if_pos hu] at h
    case isFalse hu =>
      rw [if_neg hu] at h
      split at h
      case isTrue hp => rwa [if_pos (hl part hp)]
      case isFalse => cases h

theorem foldlM_follow?_put (hn : ∀ es, f.root.at? target ≠ some (.directory es)) (new : Tree)
    (h : parts.foldlM f.follow? way = some way') :
    parts.foldlM { f with root := f.root.put new target }.follow? way = some way' := by
  induction parts generalizing way with
  | nil => exact h
  | cons part parts ih =>
    rw [List.foldlM_cons] at h ⊢
    obtain ⟨next, hs, h⟩ := Option.bind_eq_some_iff.1 h
    rw [follow?_put hn new hs]
    exact ih h

/-- A file that was written is where its path leads to, and no other file is changed. -/
theorem way?_of_write? (h : f.write? path content = some g) :
    ∃ way, g.way? path = some way ∧ g.root.at? way = some (.file content) ∧
      ChangedOnlyAt [way] f g := by
  obtain ⟨origin, parts, way, name, es, hs, hf, hname, hd, hn, rfl⟩ := exists_of_write? h
  have hg := Tree.at?_put_self hd (.file content) name
  obtain ⟨fs, hfs, -⟩ := Tree.exists_at?_put (.file content) (Tree.not_prefix_of_directory hn hd) hd
  -- The directory may have got the name only now.
  have hl : (fs.lookup name).isSome := by
    rw [← Tree.at?_append_singleton hfs name, hg]
    rfl
  refine ⟨way ++ [name], ?_, hg, ?_⟩
  · exact way?_of_start hs (foldlM_follow?_put hn _ hf) hfs hname hl
  · intro vs hv
    rw [List.mem_singleton] at hv
    exact Tree.content?_put_file hn hv

end TripleSlash.Files
