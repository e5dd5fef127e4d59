import TripleSlash.CommandLine.Run

namespace TripleSlash

namespace Files

section

variable {α β : Type}

theorem run_bind (x : ExceptT Failure (StateM Files) α) (k : α → ExceptT Failure (StateM Files) β)
    (f : Files) :
    (x >>= k).run f =
      match x.run f with
      | (.ok a, g) => (k a).run g
      | (.error e, g) => (.error e, g) := by
  change (match x.run f with | (r, g) => ExceptT.bindCont k r g) = _
  cases x.run f with | mk r g
  cases r <;> rfl

theorem run_get (f : Files) : (get : ExceptT Failure (StateM Files) Files).run f = (.ok f, f) :=
  rfl

theorem run_ofExcept (x : Except Failure α) (f : Files) :
    (MonadExcept.ofExcept x : ExceptT Failure (StateM Files) α).run f = (x, f) := by
  cases x <;> rfl

end

theorem save_run (path text : String) (f : Files) :
    (save path text).run f =
      match (Path.parent? path).elim (some f) f.makeDirectory? with
      | none => (.error (.noDirectory ((Path.parent? path).getD "")), f)
      | some g =>
        match g.write? path text.toUTF8 with
        | none => (.error (.notWritten path), g)
        | some h => (.ok (), h) := by
  have hw (g : Files) :
      ((match g.write? path text.toUTF8 with
        | none => throw (.notWritten path)
        | some h => set h : ExceptT Failure (StateM Files) Unit)).run g =
      match g.write? path text.toUTF8 with
      | none => (.error (.notWritten path), g)
      | some h => (.ok (), h) := by
    cases g.write? path text.toUTF8 <;> rfl
  rw [save]
  cases hp : Path.parent? path with
  | none =>
    simp only [run_bind, run_get, Option.elim_none]
    exact hw f
  | some parent =>
    simp only [run_bind, run_get, Option.elim_some]
    cases f.makeDirectory? parent with
    | none => rfl
    | some g => exact hw g

end Files

theorem Options.run_run (o : Options) (f : Files) :
    o.run.run f =
      match o.report f, o.output with
      | .error e, _ => (.error e, f)
      | .ok text, none => (.ok text, f)
      | .ok text, some path =>
        match (Files.save path text).run f with
        | (.ok (), g) => (.ok "", g)
        | (.error e, g) => (.error e, g) := by
  rw [Options.run]
  simp only [Files.run_bind, Files.run_get, Files.run_ofExcept]
  cases o.report f with
  | error e => rfl
  | ok text =>
    cases o.output with
    | none => rfl
    | some path =>
      simp only [Files.run_bind]
      cases (Files.save path text).run f with | mk r g
      cases r <;> rfl

theorem Options.run_of_output_none {o : Options} (h : o.output = none) (f : Files) :
    o.run.run f = (o.report f, f) := by
  rw [run_run, h]
  cases o.report f <;> rfl

theorem run_run (arguments : List String) (f : Files) :
    (run arguments).run f =
      match Options.ofArguments arguments with
      | .error e => (.error (.usage e), f)
      | .ok o => o.run.run f := by
  rw [run, Files.run_bind, Files.run_ofExcept]
  cases Options.ofArguments arguments <;> rfl

end TripleSlash
