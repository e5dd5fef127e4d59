import TripleSlash.Files.Scan
import TripleSlash.Proofs.Files.Names
import TripleSlash.Proofs.Unicode.ByteOrder

namespace TripleSlash

/-- The path that leads from a directory along a way of names. -/
def Path.under (directory : String) (way : List String) : String := way.foldl join directory

theorem scanEntries_eq (unread? : String → Option String) (path : String)
    (es : List (String × Tree)) :
    scanEntries unread? path es = (es.filter fun e => !isSkipped e.1).map fun e =>
      (e.1, e.2.scan unread? (Path.join path e.1) e.1) := by
  induction es with
  | nil => rfl
  | cons e es ih =>
    rw [scanEntries]
    split
    case isTrue h => rw [ih, List.filter_cons_of_neg (by simpa using h)]
    case isFalse h => rw [ih, List.filter_cons_of_pos (by simpa using h), List.map_cons]

theorem isRequestFile_iff :
    isRequestFile name = true ↔
      ∃ stem ≠ "", ∃ e ∈ ["yaml", "yml", "json"], name = stem ++ "." ++ e := by
  have hp : ∀ e ∈ requestExtensions, '.' ∉ e.toList := by decide
  simp only [isRequestFile, Option.any_eq_true, List.contains_iff_mem,
    Path.nameExtension?_eq_some_iff]
  constructor
  · rintro ⟨e, ⟨-, stem, hs, hn⟩, he⟩
    exact ⟨stem, hs, e, he, hn⟩
  · rintro ⟨stem, hs, e, he, hn⟩
    exact ⟨e, ⟨hp e he, stem, hs, hn⟩, he⟩

/-- The ways from a tree of the given name to the request files in it, in the order of names. -/
structure Lists (name : String) (t : Tree) (ways : List (List String)) : Prop where
  ordered : ways.Pairwise (· < ·)
  mem_iff : way ∈ ways ↔ (∃ content, t.at? way = some (.file content)) ∧
    (∀ n ∈ way, isSkipped n = false) ∧ isRequestFile (way.getLastD name) = true

theorem lists_file (name : String) (content : ByteArray) :
    Lists name (.file content) (if isRequestFile name then [[]] else []) where
  ordered := by split <;> simp
  mem_iff {way} := by
    cases way with
    | nil => by_cases hn : isRequestFile name <;> simp [hn, Tree.at?]
    | cons n ns => by_cases hn : isRequestFile name <;> simp [hn, Tree.at?]

/-- The entries of a directory that are not left out, in the order of their names. -/
def shownEntries (es : List (String × Tree)) : List (String × Tree) :=
  (es.filter fun e => !isSkipped e.1).mergeSort fun a b => decide (a.1 ≤ b.1)

theorem mem_shownEntries : e ∈ shownEntries es ↔ e ∈ es ∧ isSkipped e.1 = false := by
  simp [shownEntries]

theorem pairwise_shownEntries (h : (es.map (·.1)).Nodup) :
    (shownEntries es).Pairwise fun a b => a.1 < b.1 := by
  have hle : (shownEntries es).Pairwise fun a b => a.1 ≤ b.1 := by
    refine (List.pairwise_mergeSort ?_ ?_ _).imp of_decide_eq_true
    · simpa using fun _ _ _ => String.le_trans
    · simpa using String.le_total
  have hne : (shownEntries es).Pairwise fun a b => a.1 ≠ b.1 := by
    refine List.Pairwise.perm ?_ (List.mergeSort_perm _ _).symm fun h => h.symm
    exact (List.pairwise_map.1 h).sublist List.filter_sublist
  exact (hle.and hne).imp fun h => Std.lt_of_le_of_ne h.1 h.2

theorem lists_directory {es : List (String × Tree)} {ways : String × Tree → List (List String)}
    (hd : (es.map (·.1)).Nodup) (h : ∀ e ∈ es, Lists e.1 e.2 (ways e)) (name : String) :
    Lists name (.directory es) ((shownEntries es).flatMap fun e => (ways e).map (e.1 :: ·)) where
  ordered := by
    rw [List.pairwise_flatMap]
    constructor
    · intro e he
      rw [List.pairwise_map]
      have ho := (h e (mem_shownEntries.1 he).1).ordered
      exact ho.imp fun hlt => List.cons_lt_cons_iff.2 (.inr ⟨rfl, hlt⟩)
    · refine (pairwise_shownEntries hd).imp fun hlt v hv w hw => ?_
      obtain ⟨v, -, rfl⟩ := List.mem_map.1 hv
      obtain ⟨w, -, rfl⟩ := List.mem_map.1 hw
      exact List.cons_lt_cons_iff.2 (.inl hlt)
  mem_iff {way} := by
    cases way with
    | nil => simp [Tree.at?]
    | cons n ns =>
      have hmem : n :: ns ∈ (shownEntries es).flatMap (fun e => (ways e).map (e.1 :: ·)) ↔
          ∃ t, (n, t) ∈ es ∧ isSkipped n = false ∧ ns ∈ ways (n, t) := by
        simp [mem_shownEntries, and_assoc]
      rw [hmem, Tree.at?_cons, List.getLastD_cons, List.forall_mem_cons]
      constructor
      · rintro ⟨t, ht, hs, hns⟩
        obtain ⟨hfile, hshown, hreq⟩ := (h _ ht).mem_iff.1 hns
        rw [lookup_of_mem hd ht]
        exact ⟨hfile, ⟨hs, hshown⟩, hreq⟩
      · rintro ⟨⟨content, hfile⟩, ⟨hs, hshown⟩, hreq⟩
        obtain ⟨t, hl, ht⟩ := Option.bind_eq_some_iff.1 hfile
        have hm := mem_of_lookup hl
        exact ⟨t, hm, hs, (h _ hm).mem_iff.2 ⟨⟨content, ht⟩, hshown, hreq⟩⟩

theorem inNameOrder_scanEntries (unread? : String → Option String) (path : String)
    (es : List (String × Tree)) :
    Scan.inNameOrder (scanEntries unread? path es) =
      { files := (shownEntries es).flatMap fun e =>
          (e.2.scan unread? (Path.join path e.1) e.1).files
        warnings := (shownEntries es).flatMap fun e =>
          (e.2.scan unread? (Path.join path e.1) e.1).warnings } := by
  have hs : (shownEntries es).map (fun e => (e.1, e.2.scan unread? (Path.join path e.1) e.1)) =
      (scanEntries unread? path es).mergeSort fun a b => decide (a.1 ≤ b.1) := by
    rw [scanEntries_eq]
    exact List.map_mergeSort fun _ _ _ _ => rfl
  rw [Scan.inNameOrder, ← hs, List.flatMap_map, List.flatMap_map]

/-- The directories of a tree at a path can be read, those aside that are left out. -/
inductive Tree.Readable (unread? : String → Option String) : String → Tree → Prop
  | file : Readable unread? path (.file content)
  | directory : unread? path = none →
      (∀ e ∈ es, isSkipped e.1 = false → Readable unread? (Path.join path e.1) e.2) →
      Readable unread? path (.directory es)

section

variable {unread? : String → Option String} {t : Tree}

theorem Tree.WellNamed.readable (h : t.WellNamed) (path : String) :
    t.Readable (fun _ => none) path := by
  induction h generalizing path with
  | file => exact .file
  | directory _ _ _ ih => exact .directory rfl fun e he _ => ih e he _

/-- A tree has its request files at the ends of the ways that lead to them, and they are found
without a warning where its directories can be read. -/
theorem Tree.WellNamed.exists_lists (h : t.WellNamed) (name : String) :
    ∃ ways, Lists name t ways ∧ ∀ unread? path, t.Readable unread? path →
      t.scan unread? path name = { files := ways.map (Path.under path), warnings := [] } := by
  induction h generalizing name with
  | @file content =>
    refine ⟨_, lists_file name content, fun unread? path _ => ?_⟩
    rw [Tree.scan, apply_ite (List.map (Path.under path))]
    rfl
  | @directory es hd _ _ ih =>
    choose! ways hways hscan using fun e he => ih e he e.1
    refine ⟨_, lists_directory hd hways name, fun unread? path hr => ?_⟩
    cases hr with
    | directory hp hr =>
      have hshown : ∀ e ∈ shownEntries es, e.2.scan unread? (Path.join path e.1) e.1 =
          { files := (ways e).map (Path.under (Path.join path e.1)), warnings := [] } := by
        intro e he
        obtain ⟨hm, hs⟩ := mem_shownEntries.1 he
        exact hscan e hm _ _ (hr e hm hs)
      simp only [Tree.scan, hp, inNameOrder_scanEntries, List.map_flatMap, Scan.mk.injEq]
      constructor
      · refine List.flatMap_congr fun e he => ?_
        rw [hshown e he, List.map_map]
        rfl
      · refine List.flatMap_eq_nil_iff.2 fun e he => ?_
        rw [hshown e he]

/-- There are no warnings exactly if all directories that a scan comes to can be read. -/
theorem Tree.WellNamed.warnings_eq_nil_iff (h : t.WellNamed) (path name : String) :
    (t.scan unread? path name).warnings = [] ↔ t.Readable unread? path := by
  constructor
  · intro hw
    induction h generalizing path name with
    | file => exact .file
    | directory _ _ _ ih =>
      rw [Tree.scan] at hw
      split at hw
      case h_1 => cases hw
      case h_2 hp =>
        rw [inNameOrder_scanEntries] at hw
        exact .directory hp fun e he hs =>
          ih e he _ _ (List.flatMap_eq_nil_iff.1 hw e (mem_shownEntries.2 ⟨he, hs⟩))
  · intro hr
    obtain ⟨ways, -, hscan⟩ := h.exists_lists name
    rw [hscan unread? path hr]

end

/-- The ways on which a scan of a tree comes to a file: none of the names is left out, and the last
has the extension of a request file. -/
structure Tree.Scanned (t : Tree) (way : List String) : Prop where
  file : ∃ content, t.at? way = some (.file content)
  shown : ∀ n ∈ way, n.toList.head? ≠ some '.' ∧ n ≠ "target"
  extension : ∃ stem ≠ "", ∃ e ∈ ["yaml", "yml", "json"], way.getLast? = some (stem ++ "." ++ e)

theorem isSkipped_eq_false_iff :
    isSkipped name = false ↔ name.toList.head? ≠ some '.' ∧ name ≠ "target" := by
  simp [isSkipped]

theorem Lists.mem_iff_scanned (h : Lists name (.directory es) ways) :
    way ∈ ways ↔ (Tree.directory es).Scanned way := by
  have hlast (hf : ∃ content, (Tree.directory es).at? way = some (.file content)) :
      way.getLast? = some (way.getLastD name) := by
    cases way with
    | nil => simp [Tree.at?] at hf
    | cons n ns => rw [List.getLast?_cons, List.getLastD_cons, List.getLastD_eq_getLast?]
  rw [h.mem_iff, isRequestFile_iff]
  simp only [isSkipped_eq_false_iff]
  constructor
  · rintro ⟨hf, hs, stem, hne, e, he, hn⟩
    exact ⟨hf, hs, stem, hne, e, he, hn ▸ hlast hf⟩
  · rintro ⟨hf, hs, stem, hne, e, he, hn⟩
    exact ⟨hf, hs, stem, hne, e, he, Option.some.inj ((hlast hf).symm.trans hn)⟩

namespace Files

variable {f : Files}

theorem way?_under {t : Tree} (h : t.WellNamed) (hw : f.way? path = some origin)
    (ht : f.root.at? origin = some t) (ha : t.at? way = some u) :
    f.way? (Path.under path way) = some (origin ++ way) := by
  induction way generalizing t path origin with
  | nil => rwa [List.append_nil]
  | cons n ns ih =>
    cases h with
    | file => cases ha
    | @directory es hd hn hv =>
      obtain ⟨v, hl, ha⟩ := Option.bind_eq_some_iff.1 ha
      have hm := mem_of_lookup hl
      have hway := way?_join hw ht (hn _ hm) (by rw [hl]; rfl)
      have hat : f.root.at? (origin ++ [n]) = some v := (Tree.at?_append_singleton ht n).trans hl
      rw [List.append_cons]
      exact ih (hv _ hm) hway hat ha

theorem get?_under {t : Tree} (h : t.WellNamed) (hw : f.way? path = some origin)
    (ht : f.root.at? origin = some t) (ha : t.at? way = some u) :
    f.get? (Path.under path way) = some u := by
  rw [get?, way?_under h hw ht ha, Option.bind_some, Tree.at?_append, ht, Option.bind_some, ha]

theorem exists_scan?_directory (h : f.root.WellNamed) (hd : f.get? input = some (.directory es)) :
    ∃ ways, Lists "" (.directory es) ways ∧
      (∀ unread?, (Tree.directory es).Readable unread? input →
        f.walk? input unread? = some { files := ways.map (Path.under input), warnings := [] }) ∧
      f.scan? input = some (ways.map (Path.under input)) := by
  obtain ⟨origin, -, ht⟩ := Option.bind_eq_some_iff.1 hd
  obtain ⟨ways, hways, hscan⟩ := (h.at? ht).exists_lists ""
  have hwalk (unread?) (hr : (Tree.directory es).Readable unread? input) :
      f.walk? input unread? = some { files := ways.map (Path.under input), warnings := [] } := by
    rw [walk?, hd]
    exact congrArg some (hscan unread? input hr)
  refine ⟨ways, hways, hwalk, ?_⟩
  rw [scan?, hwalk _ ((h.at? ht).readable input), Option.map_some]

theorem scan?_of_file (h : f.get? path = some (.file content)) : f.scan? path = some [path] := by
  rw [scan?, walk?, h, Option.map_some]

theorem get?_of_mem_scan? (h : f.root.WellNamed) (hs : f.scan? input = some paths)
    (hp : p ∈ paths) : ∃ content, f.get? p = some (.file content) := by
  cases hg : f.get? input with
  | none =>
    rw [scan?, walk?, hg] at hs
    cases hs
  | some t =>
    cases t with
    | file content =>
      rw [scan?_of_file hg] at hs
      cases hs
      rw [List.mem_singleton.1 hp]
      exact ⟨content, hg⟩
    | directory es =>
      obtain ⟨ways, hways, -, hw⟩ := exists_scan?_directory h hg
      rw [hw] at hs
      cases hs
      obtain ⟨way, hm, rfl⟩ := List.mem_map.1 hp
      obtain ⟨content, hc⟩ := (hways.mem_iff.1 hm).1
      obtain ⟨origin, ho, ht⟩ := Option.bind_eq_some_iff.1 hg
      exact ⟨content, get?_under (h.at? ht) ho ht hc⟩

/-- What a scan of a directory finds are the request files below it, each once and in the order of
the bytes of the names that lead to them. There are no warnings if the directories can be read. -/
theorem scan?_directory (h : f.root.WellNamed) (hd : f.get? input = some (.directory es)) :
    ∃ ways : List (List String),
      (∀ unread?, (Tree.directory es).Readable unread? input →
        f.walk? input unread? = some { files := ways.map (Path.under input), warnings := [] }) ∧
      f.scan? input = some (ways.map (Path.under input)) ∧
      (∀ way, way ∈ ways ↔ (Tree.directory es).Scanned way) ∧
      (ways.Pairwise fun v w => v.map Text.bytes < w.map Text.bytes) ∧
      (ways.map (Path.under input)).Nodup := by
  obtain ⟨ways, hways, hwalk, hs⟩ := exists_scan?_directory h hd
  obtain ⟨origin, ho, ht⟩ := Option.bind_eq_some_iff.1 hd
  refine ⟨ways, hwalk, hs, fun way => hways.mem_iff_scanned, ?_, ?_⟩
  · exact hways.ordered.imp (List.map_lt fun _ _ => Text.bytes_lt)
  · rw [List.Nodup, List.pairwise_map]
    refine hways.ordered.imp_of_mem fun {v w} hv hw hlt he => ?_
    have hback {way : List String} (hm : way ∈ ways) :
        f.way? (Path.under input way) = some (origin ++ way) := by
      obtain ⟨content, hc⟩ := (hways.mem_iff.1 hm).1
      exact way?_under (h.at? ht) ho ht hc
    have hvw : some (origin ++ v) = some (origin ++ w) := (hback hv).symm.trans (he ▸ hback hw)
    rw [List.append_cancel_left (Option.some.inj hvw)] at hlt
    exact List.lt_irrefl _ hlt

/-- Entries in no order, some of which are left out. -/
def draftEntries : List (String × Tree) :=
  [("b.yaml", .file .empty), ("a-1.yml", .file .empty),
    ("a", .directory [("z.json", .file .empty), ("notes.txt", .file .empty)]),
    (".drafts", .directory [("old.yaml", .file .empty)]), ("c.yaml", .directory []),
    ("target", .directory [("out.json", .file .empty)])]

def draftFiles : Files where
  root := .directory [("r", .directory draftEntries)]

theorem draftFiles_wellNamed : draftFiles.root.WellNamed := by
  have hfile (n : String) (hn : Path.IsEntry n) :
      (Tree.directory [(n, .file .empty)]).WellNamed :=
    .directory (by simp) (by simpa using hn) (by simp [Tree.WellNamed.file])
  have ha : (Tree.directory [("z.json", .file .empty), ("notes.txt", .file .empty)]).WellNamed :=
    .directory (by decide) (by decide) (by simp [Tree.WellNamed.file])
  have hc : (Tree.directory []).WellNamed := .directory (by simp) (by simp) (by simp)
  have hr : (Tree.directory draftEntries).WellNamed := by
    refine .directory (by decide) (by decide) ?_
    simpa [draftEntries, Tree.WellNamed.file, ha, hc] using
      ⟨hfile "old.yaml" (by decide), hfile "out.json" (by decide)⟩
  exact .directory (by decide) (by decide) (by simpa using hr)

/-- A directory that is left out need not be readable. -/
def unreadTarget? (path : String) : Option String :=
  if path = "r/target" then some "permission denied" else none

theorem readable_draftEntries : (Tree.directory draftEntries).Readable unreadTarget? "r" := by
  have ha : (Tree.directory [("z.json", .file .empty), ("notes.txt", .file .empty)]).Readable
      unreadTarget? (Path.join "r" "a") := .directory rfl (by simp [Tree.Readable.file])
  have hc : (Tree.directory []).Readable unreadTarget? (Path.join "r" "c.yaml") :=
    .directory rfl (by simp)
  exact .directory rfl (by simp [draftEntries, Tree.Readable.file, ha, hc, isSkipped])

/-- Names are compared one by one, so that what is in `a` comes before `a-1.yml`. -/
theorem scan?_directory_draftFiles :
    draftFiles.root.WellNamed ∧ draftFiles.get? "r" = some (.directory draftEntries) ∧
      (Tree.directory draftEntries).Readable unreadTarget? "r" ∧
      ∃ ways : List (List String),
        draftFiles.walk? "r" unreadTarget? =
          some { files := ways.map (Path.under "r"), warnings := [] } ∧
        draftFiles.scan? "r" = some (ways.map (Path.under "r")) ∧
        (∀ way, way ∈ ways ↔ (Tree.directory draftEntries).Scanned way) ∧
        (ways.Pairwise fun v w => v.map Text.bytes < w.map Text.bytes) ∧
        (ways.map (Path.under "r")).Nodup := by
  obtain ⟨ways, hwalk, h⟩ := scan?_directory draftFiles_wellNamed
    (rfl : draftFiles.get? "r" = some (.directory draftEntries))
  exact ⟨draftFiles_wellNamed, rfl, readable_draftEntries, ways, hwalk _ readable_draftEntries, h⟩

end Files

end TripleSlash
