import TripleSlash.Proofs.CommandLine.Running
import TripleSlash.Proofs.Files.Scanning

namespace TripleSlash

theorem Files.text?_of_file {f : Files} {text : String}
    (h : f.get? path = some (.file text.toUTF8)) : f.text? path = some text := by
  have hv : text.toUTF8.IsValidUTF8 := text.isValidUTF8
  rw [text?, h]
  exact dif_pos (by simpa using hv)

namespace Options

variable {f : Files} {o : Options} {s : Settings} {paths : List String}

/-- The lists of requests in those files that can be loaded. -/
def loaded (f : Files) (paths : List String) : List (List Request) :=
  paths.filterMap fun path => (f.requests path).toOption

theorem requests_eq_error :
    requests f paths = .error e ↔ e = .nothingLoaded ∧ loaded f paths = [] := by
  rw [requests, ← loaded]
  cases loaded f paths <;> simp [eq_comm]

theorem requests_eq_ok :
    requests f paths = .ok rs ↔ loaded f paths ≠ [] ∧ rs = (loaded f paths).flatten := by
  rw [requests, ← loaded]
  cases loaded f paths <;> simp [eq_comm]

theorem report_eq (hd : f.get? o.input = some t) (hs : o.settings f = .ok s)
    (hp : f.scan? o.input = some paths) (hne : paths ≠ []) :
    o.report f =
      (requests f paths).map fun rs => Report.ofOutcomes o.form (rs.map (·.outcome s)) := by
  obtain ⟨p, ps, rfl⟩ := List.exists_cons_of_ne_nil hne
  have hf : o.requestFiles f = .ok (p :: ps) := by rw [requestFiles, hp]
  rw [report, hd, hs, hf]
  rfl

/-- The text report on requests. -/
def textOf (s : Settings) (rs : List Request) : String :=
  Report.ofOutcomes .text (rs.map (·.outcome s))

theorem textOf_flatten (s : Settings) (rss : List (List Request)) :
    textOf s rss.flatten = String.join (rss.map (textOf s)) := by
  induction rss with
  | nil => rfl
  | cons rs rss ih =>
    rw [List.flatten_cons, List.map_cons, String.join_cons, ← ih]
    simp only [textOf, Report.ofOutcomes, List.map_append, String.join_append]

theorem loaded_eq_nil :
    loaded f paths = [] ↔ ∀ p ∈ paths, ∃ e, f.requests p = .error e := by
  rw [loaded, List.filterMap_eq_nil_iff]
  refine forall₂_congr fun p _ => ?_
  cases f.requests p <;> simp [Except.toOption]

theorem report_text (hform : o.form = .text) (hd : f.get? o.input = some t)
    (hs : o.settings f = .ok s) (hp : f.scan? o.input = some paths) (hne : paths ≠ []) :
    o.report f = (requests f paths).map (textOf s) := by
  rw [report_eq hd hs hp hne, hform]
  rfl

theorem report_eq_error_iff (hform : o.form = .text) (hd : f.get? o.input = some t)
    (hs : o.settings f = .ok s) (hp : f.scan? o.input = some paths) (hne : paths ≠ []) :
    o.report f = .error e ↔ e = .nothingLoaded ∧ loaded f paths = [] := by
  rw [report_text hform hd hs hp hne, ← requests_eq_error]
  cases requests f paths <;> simp [Except.map]

theorem report_eq_ok_iff (hform : o.form = .text) (hd : f.get? o.input = some t)
    (hs : o.settings f = .ok s) (hp : f.scan? o.input = some paths) (hne : paths ≠ []) :
    o.report f = .ok text ↔
      loaded f paths ≠ [] ∧ text = String.join ((loaded f paths).map (textOf s)) := by
  rw [report_text hform hd hs hp hne, ← textOf_flatten]
  cases hr : requests f paths with
  | error e => simp [Except.map, (requests_eq_error.1 hr).2]
  | ok rs =>
    obtain ⟨hl, rfl⟩ := requests_eq_ok.1 hr
    simp [Except.map, hl, eq_comm]

theorem report_of_nothing_found (hp : f.scan? o.input = some []) (text : String) :
    o.report f ≠ .ok text := by
  have hf : o.requestFiles f = .error (.noRequestFiles o.input) := by rw [requestFiles, hp]
  intro h
  rw [report, hf] at h
  cases hd : (f.get? o.input).isNone with
  | true =>
    rw [hd] at h
    cases h
  | false =>
    rw [hd] at h
    cases hs : o.settings f with
    | error e =>
      rw [hs] at h
      cases h
    | ok s =>
      rw [hs] at h
      cases h

theorem report_file (hform : o.form = .text) (hs : o.settings f = .ok s)
    (hf : f.get? p = some (.file content)) :
    ({ o with input := p } : Options).report f =
      ((f.requests p).map (textOf s)).mapError fun _ => .nothingLoaded := by
  rw [report_text (o := { o with input := p }) hform hf hs (Files.scan?_of_file hf) (by simp),
    requests]
  cases hr : f.requests p with
  | error e => simp [hr, Except.toOption, Except.map, Except.mapError]
  | ok rs => simp [hr, Except.toOption, Except.map, Except.mapError]

section

variable (hform : o.form = .text) (hout : o.output = none) (hw : f.root.WellNamed)
  (hs : o.settings f = .ok s) (hp : f.scan? o.input = some paths)

include hform hout hw hs hp

theorem run_found (hm : p ∈ paths) :
    ({ o with input := p }.run.run f).1 =
      ((f.requests p).map (textOf s)).mapError fun _ => .nothingLoaded := by
  obtain ⟨content, hf⟩ := Files.get?_of_mem_scan? hw hp hm
  rw [run_of_output_none (o := { o with input := p }) hout, report_file hform hs hf]

theorem run_found_eq_error (hm : p ∈ paths) :
    (∃ e, ({ o with input := p }.run.run f).1 = .error e) ↔ ∃ e, f.requests p = .error e := by
  rw [run_found hform hout hw hs hp hm]
  cases f.requests p <;> simp [Except.map, Except.mapError]

theorem filterMap_run_found :
    (paths.filterMap fun p => ({ o with input := p }.run.run f).1.toOption) =
      (loaded f paths).map (textOf s) := by
  rw [loaded, List.map_filterMap]
  apply List.filterMap_congr
  intro p hm
  rw [run_found hform hout hw hs hp hm]
  cases f.requests p <;> rfl

theorem forall_run_found_eq_error :
    (∀ p ∈ paths, ∃ e, ({ o with input := p }.run.run f).1 = .error e) ↔ loaded f paths = [] := by
  rw [loaded_eq_nil]
  exact forall₂_congr fun p hm => run_found_eq_error hform hout hw hs hp hm

/-- A run on a directory prints what the runs on its files print, one after another, and it fails
only if all of them fail. -/
theorem run_directory (hd : f.get? o.input = some (.directory es)) :
    (∀ text, (o.run.run f).1 = .ok text →
      text = String.join
        (paths.filterMap fun p => ({ o with input := p }.run.run f).1.toOption)) ∧
    (paths ≠ [] →
      ((∃ e, (o.run.run f).1 = .error e) ↔
        ∀ p ∈ paths, ∃ e, ({ o with input := p }.run.run f).1 = .error e) ∧
      ∀ e, (o.run.run f).1 = .error e → e = .nothingLoaded) := by
  rw [run_of_output_none hout, filterMap_run_found hform hout hw hs hp,
    forall_run_found_eq_error hform hout hw hs hp]
  constructor
  · intro text ht
    have hne : paths ≠ [] := by
      rintro rfl
      exact report_of_nothing_found hp text ht
    exact ((report_eq_ok_iff hform hd hs hp hne).1 ht).2
  · intro hne
    have he (e : Failure) := report_eq_error_iff (e := e) hform hd hs hp hne
    constructor
    · constructor
      · rintro ⟨e, hr⟩
        exact ((he e).1 hr).2
      · intro hl
        exact ⟨.nothingLoaded, (he _).2 ⟨rfl, hl⟩⟩
    · intro e hr
      exact ((he e).1 hr).1

end

def colorText : String :=
  "[\x7b\"fix\": \"document\", " ++
    "\"declaration\": \x7b\"kind\": \"enum\", \"name\": \"Color\"\x7d\x7d]"

/-- Two files of requests and one that is broken. -/
def colorEntries : List (String × Tree) :=
  [("a.json", .file colorText.toUTF8), ("b.json", .file "[".toUTF8),
    ("more", .directory [("c.json", .file colorText.toUTF8)])]

def colorFiles : Files where
  root := .directory [("r", .directory colorEntries)]

def colorReport : String := "// Color\n/// <summary>\n/// The color.\n/// </summary>\n\n"

def colorRequest : Request where
  fix := .document
  declaration := { kind := .enumType, name := "Color" }

theorem colorFiles_wellNamed : colorFiles.root.WellNamed := by
  have hmore : (Tree.directory [("c.json", .file colorText.toUTF8)]).WellNamed :=
    .directory (by decide) (by decide) (by simp [Tree.WellNamed.file])
  have hr : (Tree.directory colorEntries).WellNamed :=
    .directory (by decide) (by decide) (by simpa [colorEntries, Tree.WellNamed.file] using hmore)
  exact .directory (by decide) (by decide) (by simpa using hr)

def colorDatum : Datum :=
  .list [.record [(.text "fix", .text "document"),
    (.text "declaration", .record [(.text "kind", .text "enum"), (.text "name", .text "Color")])]]

theorem parse?_colorText : Json.parse? colorText = some colorDatum := by
  have hv (n : Nat) : Json.readValue (n + 5) colorText.toList = some (colorDatum, []) := rfl
  have hn : colorText.toList.length + 1 = 67 + 5 := by decide
  rw [Json.parse?, hn, hv]
  rfl

theorem requests_colorFiles (path : String)
    (h : colorFiles.get? path = some (.file colorText.toUTF8))
    (hj : isJsonPath path = true) : colorFiles.requests path = .ok [colorRequest] := by
  have hr : (Json.parse? colorText).bind Request.listOfDatum? = some [colorRequest] := by
    rw [parse?_colorText]
    rfl
  rw [Files.requests, Files.text?_of_file h]
  simp only [Datum.ofFileText?, hj, if_true, hr]

theorem requests_colorFiles_broken : colorFiles.requests "r/b.json" = .error .malformed := by
  have hr : Datum.ofFileText? "r/b.json" "[" = none :=
    Option.isNone_iff_eq_none.1 (by decide +kernel)
  have hg : colorFiles.get? "r/b.json" = some (.file "[".toUTF8) := rfl
  rw [Files.requests, Files.text?_of_file hg]
  simp only [hr, Option.bind_none]

theorem get?_colorFiles : colorFiles.get? "r" = some (.directory colorEntries) := rfl

theorem scan?_colorFiles :
    colorFiles.scan? "r" = some ["r/a.json", "r/b.json", "r/more/c.json"] := by
  have hm : Scan.inNameOrder [("c.json", { files := ["r/more/c.json"] })] =
      { files := ["r/more/c.json"] } := by
    rw [Scan.inNameOrder, List.mergeSort_singleton]
    rfl
  have hr : scanEntries (fun _ => none) "r" colorEntries =
      [("a.json", { files := ["r/a.json"] }), ("b.json", { files := ["r/b.json"] }),
        ("more", { files := ["r/more/c.json"] })] := by
    rw [← hm]
    rfl
  rw [Files.scan?, Files.walk?, get?_colorFiles]
  simp only [Tree.scan, hr]
  rw [Scan.inNameOrder, List.mergeSort_of_pairwise (by decide)]
  rfl

theorem report_colorFiles :
    ({ input := "r" } : Options).report colorFiles = .ok (colorReport ++ colorReport) := by
  have ha := requests_colorFiles "r/a.json" rfl (by decide +kernel)
  have hc := requests_colorFiles "r/more/c.json" rfl (by decide +kernel)
  have ht : textOf {} [colorRequest] = colorReport := by decide +kernel
  rw [report_eq_ok_iff (s := {}) rfl get?_colorFiles rfl scan?_colorFiles (by simp)]
  simp [loaded, ha, hc, requests_colorFiles_broken, Except.toOption, ht, String.join]

theorem run_directory_colorFiles :
    (({ input := "r" } : Options).run.run colorFiles).1 = .ok (colorReport ++ colorReport) ∧
      colorReport ++ colorReport = String.join
        (["r/a.json", "r/b.json", "r/more/c.json"].filterMap fun p =>
          (({ input := p } : Options).run.run colorFiles).1.toOption) ∧
      ((∃ e, (({ input := "r" } : Options).run.run colorFiles).1 = .error e) ↔
        ∀ p ∈ ["r/a.json", "r/b.json", "r/more/c.json"],
          ∃ e, (({ input := p } : Options).run.run colorFiles).1 = .error e) := by
  have hr : (({ input := "r" } : Options).run.run colorFiles).1 =
      .ok (colorReport ++ colorReport) := by
    rw [run_of_output_none rfl, report_colorFiles]
  have h := run_directory (o := { input := "r" }) (s := {}) rfl rfl colorFiles_wellNamed rfl
    scan?_colorFiles get?_colorFiles
  exact ⟨hr, h.1 _ hr, (h.2 (by simp)).1⟩

end Options

end TripleSlash
