import TripleSlash.Proofs.Files.Tree

namespace TripleSlash

theorem Text.notMem_of_mem_splitOn {cs : List Char} (h : piece ∈ cs.splitOn sep) : sep ∉ piece := by
  induction cs generalizing piece with
  | nil =>
    rw [List.mem_singleton.1 h]
    exact List.not_mem_nil
  | cons c cs ih =>
    rw [List.splitOn_cons_eq_if_modifyHead] at h
    split at h
    case isTrue =>
      rcases List.mem_cons.1 h with rfl | h
      · exact List.not_mem_nil
      · exact ih h
    case isFalse hc =>
      have hne : sep ≠ c := fun he => hc (beq_iff_eq.2 he.symm)
      obtain ⟨p, ps, hp⟩ := List.exists_cons_of_ne_nil (List.splitOn_ne_nil sep cs)
      rw [hp, List.modifyHead_cons] at h
      rw [hp] at ih
      rcases List.mem_cons.1 h with rfl | h
      · exact List.not_mem_cons_of_ne_of_not_mem hne (ih List.mem_cons_self)
      · exact ih (List.mem_cons_of_mem p h)

namespace Path

/-- A name that is one part of a path and leads further. -/
structure IsEntry (name : String) : Prop where
  not_idle : isIdle name = false
  ne_up : name ≠ ".."
  no_slash : '/' ∉ name.toList

theorem isEntry_iff : IsEntry name ↔ isIdle name = false ∧ name ≠ ".." ∧ '/' ∉ name.toList :=
  ⟨fun h => ⟨h.not_idle, h.ne_up, h.no_slash⟩, fun ⟨hi, hu, hs⟩ => ⟨hi, hu, hs⟩⟩

instance (name : String) : Decidable (IsEntry name) := decidable_of_iff' _ isEntry_iff

theorem parts_ne_nil (path : String) : parts path ≠ [] := by
  rw [parts, Ne, List.map_eq_nil_iff]
  exact List.splitOn_ne_nil '/' path.toList

theorem no_slash_of_mem_parts (h : p ∈ parts path) : '/' ∉ p.toList := by
  obtain ⟨piece, hp, rfl⟩ := List.mem_map.1 h
  rw [String.toList_ofList]
  exact Text.notMem_of_mem_splitOn hp

theorem eq_empty_of_parts (h : parts path = [""]) : path = "" := by
  obtain ⟨cs, hc, he⟩ := List.map_eq_singleton_iff.1 h
  have hcs : cs = [] := by simpa using congrArg String.toList he
  have hp : ['/'].intercalate (path.toList.splitOn '/') = path.toList :=
    List.intercalate_splitOn '/'
  rw [hc, hcs] at hp
  simpa using hp.symm

theorem parts_append_slash (directory name : String) (h : '/' ∉ name.toList) :
    parts (directory ++ "/" ++ name) = parts directory ++ [name] := by
  have ht : (directory ++ "/" ++ name).toList = directory.toList ++ '/' :: name.toList := by simp
  rw [parts, ht, List.splitOn_append_cons_self, List.splitOn_eq_singleton h, List.map_append]
  simp [parts]

/-- The parts of a path to an entry: those of the directory, without an idle part behind its last
slash, and the name of the entry. -/
theorem parts_join (directory : String) (h : '/' ∉ name.toList) :
    ∃ ps, parts (join directory name) = ps ++ [name] ∧
      (parts directory = ps ∨ ps ≠ [] ∧ parts directory = ps ++ [""]) := by
  rw [join]
  split
  case isFalse => exact ⟨_, parts_append_slash directory name h, .inl rfl⟩
  case isTrue hl =>
    obtain ⟨cs, hc⟩ := List.getLast?_eq_some_iff.1 hl
    have hd : directory = String.ofList cs ++ "/" := by
      rw [← String.toList_inj]
      simp [hc]
    rw [hd, parts_append_slash _ _ h]
    have he := parts_append_slash (String.ofList cs) "" (by simp)
    rw [String.append_empty] at he
    exact ⟨_, rfl, .inr ⟨parts_ne_nil _, he⟩⟩

/-- The extension of a name is what stands behind its last point, if something stands in front. -/
theorem nameExtension?_eq_some_iff :
    nameExtension? name = some e ↔ '.' ∉ e.toList ∧ ∃ stem ≠ "", name = stem ++ "." ++ e := by
  constructor
  · intro h
    simp only [nameExtension?] at h
    split at h
    case h_2 => cases h
    case h_1 p c cs hd =>
      cases h
      have hp : p = '.' := by
        have hp := List.head_dropWhile_not (· != '.') (l := name.toList.reverse) (by simp [hd])
        simpa [hd] using hp
      have hn := List.takeWhile_append_dropWhile (p := (· != '.')) (l := name.toList.reverse)
      have ha := List.all_takeWhile (p := (· != '.')) (l := name.toList.reverse)
      rw [hd, hp] at hn
      generalize name.toList.reverse.takeWhile (· != '.') = back at hn ha
      refine ⟨?_, String.ofList (c :: cs).reverse, by simp, ?_⟩
      · simpa using fun hm => List.all_eq_true.1 ha '.' hm
      · rw [← String.toList_inj, ← List.reverse_inj, ← hn]
        simp
  · rintro ⟨he, stem, hs, rfl⟩
    obtain ⟨c, cs, hc⟩ : ∃ c cs, stem.toList.reverse = c :: cs :=
      List.exists_cons_of_ne_nil (by simpa using hs)
    have hp : ∀ x ∈ e.toList.reverse, (x != '.') = true := by
      intro x hx
      exact bne_iff_ne.2 fun h => he (h ▸ List.mem_reverse.1 hx)
    have hb : (stem ++ "." ++ e).toList.reverse = e.toList.reverse ++ '.' :: c :: cs := by
      simp [hc]
    simp only [nameExtension?, hb, List.dropWhile_append_of_pos hp, List.takeWhile_append_of_pos hp]
    simp

theorem ne_empty_of_mem_parts (h : name ∈ parts path) (hn : IsEntry name) : path ≠ "" := by
  rintro rfl
  cases List.mem_singleton.1 h
  cases hn.not_idle

end Path

namespace Files

variable {f : Files} {way parts : List String}

theorem start_of_parts (h : Path.parts path = p :: ps) (hp : p = "" → ps ≠ []) :
    f.start path = if p = "" then ([], ps) else (f.here, p :: ps) := by
  rw [start, h]
  by_cases he : p = ""
  · obtain ⟨q, qs, rfl⟩ := List.exists_cons_of_ne_nil (hp he)
    subst he
    rfl
  · rw [if_neg he]
    split
    · rename_i hc
      exact (he (List.cons.inj hc).1).elim
    · rfl

theorem mem_parts_of_start (h : f.start path = (way, ps)) (hp : p ∈ ps) : p ∈ Path.parts path := by
  rw [start] at h
  split at h
  · rename_i hc
    cases h
    rw [hc]
    exact List.mem_cons_of_mem _ hp
  · cases h
    exact hp

theorem start_join (f : Files) (hd : directory ≠ "") (h : '/' ∉ name.toList) :
    ∃ way ps, f.start (Path.join directory name) = (way, ps ++ [name]) ∧
      (f.start directory = (way, ps) ∨ f.start directory = (way, ps ++ [""])) := by
  obtain ⟨ps, hj, hp⟩ := Path.parts_join directory h
  obtain ⟨p, qs, rfl⟩ : ∃ p qs, ps = p :: qs := by
    apply List.exists_cons_of_ne_nil
    rcases hp with hp | ⟨hp, -⟩
    · rw [← hp]
      exact Path.parts_ne_nil directory
    · exact hp
  have hs : f.start (Path.join directory name) = _ := start_of_parts hj fun _ => by simp
  have he (hp : Path.parts directory = p :: qs) : p = "" → qs ≠ [] := by
    rintro rfl rfl
    exact hd (Path.eq_empty_of_parts hp)
  by_cases h0 : p = ""
  · rw [if_pos h0] at hs
    refine ⟨[], qs, hs, ?_⟩
    rcases hp with hp | ⟨-, hp⟩
    · left
      rw [start_of_parts hp (he hp), if_pos h0]
    · right
      rw [start_of_parts hp fun _ => by simp, if_pos h0]
      rfl
  · rw [if_neg h0] at hs
    refine ⟨f.here, p :: qs, hs, ?_⟩
    rcases hp with hp | ⟨-, hp⟩
    · left
      rw [start_of_parts hp (he hp), if_neg h0]
    · right
      rw [start_of_parts hp fun _ => by simp, if_neg h0]
      rfl

theorem follow?_of_directory (h : f.root.at? way = some (.directory es)) (part : String) :
    f.follow? way part =
      if Path.isIdle part then some way
      else if part == ".." then some way.dropLast
      else if (es.lookup part).isSome then some (way ++ [part])
      else none := by
  rw [follow?, h]

theorem directory_of_follow? (h : f.follow? way part = some way') :
    ∃ es, f.root.at? way = some (.directory es) := by
  rw [follow?] at h
  split at h
  · rename_i es hd
    exact ⟨es, hd⟩
  · cases h

theorem eq_of_follow?_idle (h : f.follow? way part = some way') (hi : Path.isIdle part = true) :
    way' = way := by
  obtain ⟨es, hd⟩ := directory_of_follow? h
  rw [follow?_of_directory hd, if_pos hi] at h
  exact (Option.some.inj h).symm

theorem follow?_entry (hd : f.root.at? way = some (.directory es)) (hn : Path.IsEntry name)
    (hl : (es.lookup name).isSome) : f.follow? way name = some (way ++ [name]) := by
  rw [follow?_of_directory hd]
  simp [hn.not_idle, hn.ne_up, hl]

theorem way?_of_start (hs : f.start path = (origin, parts ++ [name]))
    (hw : parts.foldlM f.follow? origin = some way)
    (hd : f.root.at? way = some (.directory es)) (hn : Path.IsEntry name)
    (hl : (es.lookup name).isSome) : f.way? path = some (way ++ [name]) := by
  have hp : name ∈ Path.parts path := mem_parts_of_start hs (by simp)
  have he : path.isEmpty = false := by simpa using Path.ne_empty_of_mem_parts hp hn
  rw [way?, he, hs]
  simp only [Bool.false_eq_true, if_false, List.foldlM_append, List.foldlM_cons, List.foldlM_nil,
    bind_pure, hw]
  exact follow?_entry hd hn hl

/-- The way to an entry goes through its directory. -/
theorem way?_join (h : f.way? directory = some way)
    (hd : f.root.at? way = some (.directory es)) (hn : Path.IsEntry name)
    (hl : (es.lookup name).isSome) : f.way? (Path.join directory name) = some (way ++ [name]) := by
  rw [way?] at h
  split at h
  case isTrue => cases h
  case isFalse he =>
    have hne : directory ≠ "" := fun h0 => he (by rw [h0]; rfl)
    obtain ⟨origin, ps, hj, hs⟩ := f.start_join hne hn.no_slash
    refine way?_of_start hj ?_ hd hn hl
    rcases hs with hs | hs
    · rwa [hs] at h
    · simp only [hs, List.foldlM_append, List.foldlM_cons, List.foldlM_nil] at h
      obtain ⟨way', hw, h⟩ := Option.bind_eq_some_iff.1 h
      rw [bind_pure] at h
      rw [hw, eq_of_follow?_idle h rfl]

end Files

end TripleSlash
