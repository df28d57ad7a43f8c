import LineEditor.Config
import LineEditor.Proofs.Configuration.Tree
import LineEditor.Toml
import Mathlib.Data.List.TakeDrop

/-!
Loading the configuration again. A load makes the file at most where there is none. The template
that it writes holds nothing but headings and comments, which any reader of TOML takes for empty
tables, so it is read back as the defaults that the load gave, and the next load comes to the same
end.
-/

namespace LineEditor.Toml

/-- The heading on a line, if it has one. A line with something else on it is refused. -/
def heading? : Text → Option (Option Text)
  | [] => some none
  | '#' :: comment => if comment.all isPlain then some none else none
  | '[' :: rest =>
    if rest.getLast? = some ']' ∧ rest.dropLast ≠ [] ∧ rest.dropLast.all isBare then
      some (some rest.dropLast)
    else none
  | _ => none

def headings? : List Text → Option (List Text)
  | [] => some []
  | line :: rest => do
    match ← heading? line with
    | none => headings? rest
    | some name => return name :: (← headings? rest)

def emptyTables (names : List Text) : Table := names.map (·, .table .header [])

/-- The parser knows of a document of nothing but headings, all different, that its tables are
empty. -/
def Parser.KnowsHeadings (toml : Parser) : Prop :=
  ∀ lines names, headings? lines = some names → names.Nodup →
    toml (lines.flatMap (· ++ ['\n'])) = some (emptyTables names)

namespace Document

end Document

namespace Reader
variable {α β : Type} {text rest : Text}

end Reader

end LineEditor.Toml

namespace LineEditor.Config

theorem headings?_template : ∃ lines, template.toList = lines.flatMap (· ++ ['\n'])
    ∧ Toml.headings? lines = some ["editor".toList, "regex".toList, "logging".toList] := by
  refine ⟨(template.toList.splitOn '\n').dropLast, ?_, ?_⟩
  · rw [template, String.toList_ofList]
    decide +kernel
  · rw [template, String.toList_ofList]
    decide +kernel

-- All options of the template are comments, so it says what a load without a file gives.
theorem check_template {toml : Toml.Parser} (knows : toml.KnowsHeadings) :
    check toml template.toList = .ok {} := by
  obtain ⟨lines, text, headings⟩ := headings?_template
  have table := knows lines _ headings (by decide)
  rw [check, parse?, text, table]
  rfl

/-! ### Where the file is -/

variable {toml : Toml.Parser} {home base name : Text} {files after : Files}
  {outcome : Except LoadFailure Config}

/-! ### Where the file is -/

theorem names_join (bare : '/' ∉ name) (notEmpty : name ≠ []) :
    Files.names (join base name) = Files.names base ++ [name] := by
  rw [← Files.names_bare bare notEmpty]
  unfold join
  split
  · next ends =>
    rcases ends with rfl | ends
    · rfl
    · obtain ⟨front, rfl⟩ := List.getLast?_eq_some_iff.1 ends
      rw [List.append_assoc, List.singleton_append, Files.names_child,
        Files.names_before_slashes (by simp)]
  · exact Files.names_child base name

theorem prefix_join (base name : Text) : base <+: join base name := by
  unfold join
  split <;> exact List.prefix_append _ _

theorem continues_path (home : Text) :
    Files.Continues (directory home) (path home) "config.toml".toList where
  notEmpty := by
    unfold directory join
    split <;> simp
  starts := prefix_join _ _
  names := names_join (by decide) (by decide)

/-- How a load can go: what comes of it, and the files that it leaves. -/
inductive Loads (toml : Toml.Parser) (home : Text) (files : Files) :
    Except LoadFailure Config → Files → Prop where
  | present (there : files.pathExists (path home) = true) :
      Loads toml home files (loadFile toml home files) files
  -- Some of the directories may have been made by then.
  | noDirectory {made : Files} {cause : Refusal} (absent : ¬files.pathExists (path home) = true)
      (refused : files.createDirectory (directory home) = (.error cause, made)) :
      Loads toml home files (.error (.createDirectory (directory home) cause)) made
  -- And some of the bytes may have been written.
  | noFile {made after : Files} {cause : Refusal} (absent : ¬files.pathExists (path home) = true)
      (created : files.createDirectory (directory home) = (.ok (), made))
      (refused : made.write (path home) (Utf8.encode template.toList) = (.error cause, after)) :
      Loads toml home files (.error (.writeTemplate (path home) cause)) after
  | written {made after : Files} (absent : ¬files.pathExists (path home) = true)
      (created : files.createDirectory (directory home) = (.ok (), made))
      (ran : made.write (path home) (Utf8.encode template.toList) = (.ok (), after)) :
      Loads toml home files (.ok {}) after

theorem loads_load (toml : Toml.Parser) (home : Text) (files : Files) :
    Loads toml home files (load toml home files).1 (load toml home files).2 := by
  unfold load
  split
  · next there => exact .present there
  · next absent =>
    unfold writeTemplate
    rcases created : files.createDirectory (directory home) with ⟨cause | _, made⟩
    · exact .noDirectory absent created
    · dsimp only
      rcases ran : made.write (path home) (Utf8.encode template.toList) with ⟨cause | _, after⟩
      · exact .noFile absent created ran
      · exact .written absent created ran

theorem loadFile_of_read {text : Text} (read : files.read (path home) = .ok (Utf8.encode text)) :
    loadFile toml home files = (check toml text).mapError (.invalid (path home)) := by
  simp only [loadFile, read, Utf8.decode?_encode]

theorem loadFile_template (knows : toml.KnowsHeadings)
    (read : files.read (path home) = .ok (Utf8.encode template.toList)) :
    loadFile toml home files = .ok {} := by
  rw [loadFile_of_read read, check_template knows]
  rfl

theorem absent_made {made : Files} (tree : files.IsTree)
    (leads : files.LeadsDown (directory home)) (absent : ¬files.pathExists (path home) = true)
    {outcome : Except Refusal Unit}
    (created : files.createDirectory (directory home) = (outcome, made)) :
    files.Grows made ∧ ¬made.pathExists (path home) = true := by
  have grows := Files.createDirectory_grows files (directory home)
  have absent := Files.pathExists_createDirectory tree leads (continues_path home) (by decide) absent
  rw [created] at grows absent
  exact ⟨grows, absent⟩

theorem Loads.extended (tree : files.IsTree) (leads : files.LeadsDown (directory home))
    (loads : Loads toml home files outcome after) : after.Extends files := by
  cases loads with
  | present => exact .refl files
  | noDirectory absent refused => exact (absent_made tree leads absent refused).1.extended
  | noFile absent created refused =>
    obtain ⟨grows, absent⟩ := absent_made tree leads absent created
    have kept := Files.write_absent_extends absent (Utf8.encode template.toList)
    rw [refused] at kept
    exact grows.extended.trans kept
  | written absent created ran =>
    obtain ⟨grows, absent⟩ := absent_made tree leads absent created
    have kept := Files.write_absent_extends absent (Utf8.encode template.toList)
    rw [ran] at kept
    exact grows.extended.trans kept

theorem Loads.again (knows : toml.KnowsHeadings) (tree : files.IsTree)
    (leads : files.LeadsDown (directory home))
    (takes : files.TakesNew (Utf8.encode template.toList))
    (loads : Loads toml home files outcome after) : Loads toml home after outcome after := by
  cases loads with
  | present there => exact .present there
  | noDirectory absent refused =>
    exact .noDirectory (absent_made tree leads absent refused).2
      (Files.createDirectory_again tree leads refused)
  | noFile absent created refused =>
    obtain ⟨grows, absent⟩ := absent_made tree leads absent created
    rcases Files.write_absent absent (grows.takesNew takes) with ⟨cause, left⟩ | ⟨_, taken, -, -⟩
    · cases refused.symm.trans left
      exact .noFile absent (Files.createDirectory_again tree leads created) left
    · cases refused.symm.trans taken
  | written absent created ran =>
    obtain ⟨grows, absent⟩ := absent_made tree leads absent created
    rcases Files.write_absent absent (grows.takesNew takes) with
      ⟨cause, left⟩ | ⟨_, taken, there, read⟩
    · cases ran.symm.trans left
    · cases ran.symm.trans taken
      have present := @Loads.present toml _ _ there
      rwa [loadFile_template knows read] at present

/-- A load that makes the file gives the defaults, and leaves the template in it. -/
theorem load_creates_template (tree : files.IsTree) (leads : files.LeadsDown (directory home))
    (takes : files.TakesNew (Utf8.encode template.toList))
    (absent : ¬files.pathExists (path home) = true) {config : Config}
    (loaded : load toml home files = (.ok config, after)) :
    config = {} ∧ after.read (path home) = .ok (Utf8.encode template.toList) := by
  have loads := loads_load toml home files
  rw [loaded] at loads
  dsimp only at loads
  generalize same : Except.ok config = outcome at loads
  cases loads with
  | present there => exact absurd there absent
  | noDirectory | noFile => cases same
  | written _ created ran =>
    cases same
    obtain ⟨grows, absent⟩ := absent_made tree leads absent created
    rcases Files.write_absent absent (grows.takesNew takes) with ⟨_, left⟩ | ⟨_, taken, -, read⟩
    · cases ran.symm.trans left
    · cases ran.symm.trans taken
      exact ⟨rfl, read⟩

end LineEditor.Config
