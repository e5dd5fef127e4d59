import TripleSlash.Proofs.CommandLine.Directory

namespace TripleSlash

namespace Files

variable {f g : Files}

theorem ChangedOnlyAt.of_parent {parent : Option String}
    (h : parent.elim (some f) f.makeDirectory? = some g) : ChangedOnlyAt [] f g := by
  cases parent with
  | none =>
    cases h
    exact .refl [] f
  | some path => exact .of_makeDirectory? h

theorem ChangedOnlyAt.of_save_error (h : (save path text).run f = (.error e, g)) :
    ChangedOnlyAt [] f g := by
  rw [save_run] at h
  split at h
  · cases h
    exact .refl [] _
  · rename_i hp
    split at h
    · cases h
      exact .of_parent hp
    · cases h

theorem way?_of_save (h : (save path text).run f = (.ok (), g)) :
    ∃ way, g.way? path = some way ∧ g.root.at? way = some (.file text.toUTF8) ∧
      ChangedOnlyAt [way] f g := by
  rw [save_run] at h
  split at h
  · cases h
  · rename_i hp
    split at h
    · cases h
    · rename_i hw
      cases h
      obtain ⟨way, hway, hg, hc⟩ := way?_of_write? hw
      exact ⟨way, hway, hg, ((ChangedOnlyAt.of_parent hp).mono [way]).trans hc⟩

theorem WellNamed.save (h : f.WellNamed) (hs : (save path text).run f = (result, g)) :
    g.WellNamed := by
  rw [save_run] at hs
  split at hs
  · cases hs
    exact h
  · rename_i k hp
    have hk : k.WellNamed := by
      cases hq : Path.parent? path with
      | none =>
        rw [hq] at hp
        cases hp
        exact h
      | some parent =>
        rw [hq] at hp
        exact h.makeDirectory? hp
    split at hs
    · cases hs
      exact hk
    · rename_i hw
      cases hs
      exact hk.write? hw

end Files

open Files (ChangedOnlyAt)

namespace Options

variable {f g : Files} {o : Options}

theorem changed_of_run_error (h : o.run.run f = (.error e, g)) : ChangedOnlyAt [] f g := by
  rw [run_run] at h
  split at h
  · cases h
    exact .refl [] _
  · cases h
  · split at h
    · cases h
    · rename_i hs
      cases h
      exact .of_save_error hs

theorem output_of_run (ho : o.output = some path) (h : o.run.run f = (.ok text, g)) :
    text = "" ∧ ∃ way report, g.way? path = some way ∧
      g.root.at? way = some (.file report.toUTF8) ∧ ChangedOnlyAt [way] f g ∧
      { o with output := none }.run.run f = (.ok report, f) := by
  have hn : { o with output := none }.run.run f = (o.report f, f) :=
    run_of_output_none (o := { o with output := none }) rfl f
  rw [run_run, ho] at h
  cases hr : o.report f with
  | error e =>
    rw [hr] at h
    cases h
  | ok report =>
    simp only [hr] at h
    split at h
    · rename_i hs
      cases h
      obtain ⟨way, hway, hg, hc⟩ := Files.way?_of_save hs
      exact ⟨rfl, way, report, hway, hg, hc, by rw [hn, hr]⟩
    · cases h

end Options

/-- A run keeps the names of files and directories such as they can be. -/
theorem wellNamed_of_run (hf : f.WellNamed) (h : (run arguments).run f = (result, g)) :
    g.WellNamed := by
  rw [run_run] at h
  split at h
  case h_1 =>
    cases h
    exact hf
  case h_2 =>
    rw [Options.run_run] at h
    split at h
    · cases h
      exact hf
    · cases h
      exact hf
    · split at h
      · rename_i hs
        cases h
        exact hf.save hs
      · rename_i hs
        cases h
        exact hf.save hs

/-- A run that fails or prints its report changes no file. A run with an output file prints nothing
and changes this file only, which then holds what the run would print without it. -/
theorem run_changes (h : (run arguments).run f = (result, g)) :
    (∀ e, result = .error e → ChangedOnlyAt [] f g) ∧
    ∀ text, result = .ok text → ∃ o, Options.ofArguments arguments = .ok o ∧
      (o.output = none → ChangedOnlyAt [] f g) ∧
      ∀ path, o.output = some path →
        text = "" ∧ ∃ way report, g.way? path = some way ∧
          g.root.at? way = some (.file report.toUTF8) ∧ ChangedOnlyAt [way] f g ∧
          { o with output := none }.run.run f = (.ok report, f) := by
  rw [run_run] at h
  split at h
  case h_1 =>
    cases h
    exact ⟨fun _ _ => .refl [] _, fun text ht => by cases ht⟩
  case h_2 o ho =>
    constructor
    · intro e he
      rw [he] at h
      exact Options.changed_of_run_error h
    · intro text ht
      rw [ht] at h
      refine ⟨o, ho, ?_, ?_⟩
      · intro hn
        rw [Options.run_of_output_none hn] at h
        obtain ⟨-, rfl⟩ := Prod.mk.inj h
        exact .refl [] f
      · intro path hp
        exact Options.output_of_run hp h

theorem ofArguments_colorFiles :
    Options.ofArguments ["r", "-o", "r/a.json"] =
      .ok { input := "r", output := some "r/a.json" } := by
  rfl

theorem run_colorFiles :
    ∃ g, (run ["r", "-o", "r/a.json"]).run Options.colorFiles = (.ok "", g) := by
  have hr : ({ input := "r", output := some "r/a.json" } : Options).report Options.colorFiles =
      .ok (Options.colorReport ++ Options.colorReport) :=
    Options.report_colorFiles
  rw [run_run, ofArguments_colorFiles]
  simp only [Options.run_run, hr, Files.save_run]
  have hp : (Path.parent? "r/a.json").elim (some Options.colorFiles)
      Options.colorFiles.makeDirectory? = some Options.colorFiles := rfl
  rw [hp]
  exact ⟨_, rfl⟩

/-- The output file may be one of the files that are read. -/
theorem run_changes_colorFiles :
    ∃ g, (run ["r", "-o", "r/a.json"]).run Options.colorFiles = (.ok "", g) ∧
      g.get? "r/a.json" = some (.file (Options.colorReport ++ Options.colorReport).toUTF8) ∧
      ∃ way, g.way? "r/a.json" = some way ∧ ChangedOnlyAt [way] Options.colorFiles g := by
  obtain ⟨g, hg⟩ := run_colorFiles
  obtain ⟨o, ho, -, hw⟩ := (run_changes hg).2 "" rfl
  rw [ofArguments_colorFiles] at ho
  cases ho
  obtain ⟨-, way, report, hway, ha, hc, hr⟩ := hw _ rfl
  rw [Options.run_of_output_none rfl] at hr
  have he : report = Options.colorReport ++ Options.colorReport := by
    have hr : Except.ok (Options.colorReport ++ Options.colorReport) = Except.ok report :=
      Options.report_colorFiles.symm.trans (congrArg Prod.fst hr)
    exact (Except.ok.inj hr).symm
  refine ⟨g, hg, ?_, way, hway, hc⟩
  rw [Files.get?, hway, Option.bind_some, ha, he]

end TripleSlash
