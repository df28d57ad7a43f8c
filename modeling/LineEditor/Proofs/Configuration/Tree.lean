import Mathlib.Data.List.Basic
import Mathlib.Data.List.Induction
import Mathlib.Data.List.TakeWhile
import LineEditor.Proofs.Files

/-!
Trees of files, in which everything lies in a directory. Making directories adds some and changes
nothing else, and where a path leads downwards it does not find more than before, so that to make
them once more comes to the same end.
-/

namespace LineEditor.Files

variable {files after : Files} {location other origin final : Location}
  {path above base name : Text} {entry : Entry}

/-! ### Trees -/

structure IsTree (files : Files) : Prop where
  above : ∀ found ∈ files.entries, files.find? found.1.dropLast = some .directory
  working : files.find? files.working = some .directory

instance (files : Files) : Decidable files.IsTree :=
  decidable_of_iff
    ((∀ found ∈ files.entries, files.find? found.1.dropLast = some .directory)
      ∧ files.find? files.working = some .directory)
    ⟨fun both => ⟨both.1, both.2⟩, fun tree => ⟨tree.above, tree.working⟩⟩

theorem IsTree.directory_above (tree : files.IsTree)
    (there : files.find? (location ++ [name]) ≠ none) :
    files.find? location = some .directory := by
  obtain ⟨entry, found⟩ := Option.ne_none_iff_exists'.1 there
  unfold find? at found
  rw [if_neg (by simp), List.lookup_eq_some_iff] at found
  obtain ⟨front, back, whole, -⟩ := found
  have inside := tree.above (location ++ [name], entry) (by simp [whole])
  rwa [List.dropLast_concat] at inside

theorem IsTree.there_above (tree : files.IsTree) (above : location <+: other)
    (there : files.find? other ≠ none) : files.find? location ≠ none := by
  obtain ⟨rest, rfl⟩ := above
  induction rest using List.reverseRecOn with
  | nil => rwa [List.append_nil] at there
  | append_singleton rest name ih =>
    rw [← List.append_assoc] at there
    apply ih
    rw [tree.directory_above there]
    nofun

theorem IsTree.start (tree : files.IsTree) (path : Text) :
    files.find? (files.start path) = some .directory := by
  unfold Files.start
  split
  · rfl
  · exact tree.working

/-! ### New directories -/

/-- What was there is there still, as it was. -/
def Extends (after before : Files) : Prop :=
  ∀ location entry, before.find? location = some entry → after.find? location = some entry

theorem Extends.refl (files : Files) : files.Extends files := fun _ _ there => there

theorem Extends.trans {a b c : Files} (first : b.Extends a) (second : c.Extends b) :
    c.Extends a := fun location entry there => second location entry (first location entry there)

/-- Some directories are new, and nothing else is. -/
structure Grows (files after : Files) : Prop where
  entries : ∀ location, after.find? location = files.find? location
    ∨ files.find? location = none ∧ after.find? location = some .directory
  working : after.working = files.working
  forbidden : after.forbidden = files.forbidden
  storage : after.storage = files.storage

namespace Grows

theorem refl (files : Files) : files.Grows files := ⟨fun _ => .inl rfl, rfl, rfl, rfl⟩

theorem trans {a b c : Files} (first : a.Grows b) (second : b.Grows c) : a.Grows c where
  entries location := by
    rcases second.entries location with same | ⟨absent, new⟩
    · rw [same]
      exact first.entries location
    · rcases first.entries location with same | ⟨absent', new'⟩
      · exact .inr ⟨same ▸ absent, new⟩
      · rw [new'] at absent
        cases absent
  working := second.working.trans first.working
  forbidden := second.forbidden.trans first.forbidden
  storage := second.storage.trans first.storage

theorem find?_eq (grows : files.Grows after) (there : files.find? location ≠ none) :
    after.find? location = files.find? location :=
  (grows.entries location).resolve_right fun new => there new.1

theorem keepsWays (grows : files.Grows after) : files.KeepsWays after where
  directory location there := by rw [grows.find?_eq (by simp [there]), there]
  forbidden := grows.forbidden
  working := grows.working

theorem extended (grows : files.Grows after) : after.Extends files := by
  intro location entry there
  rw [grows.find?_eq (by simp [there]), there]

theorem absent (grows : files.Grows after) (fresh : after.find? location = none) :
    files.find? location = none := by
  rcases grows.entries location with same | new
  · rwa [← same]
  · exact new.1

theorem put (absent : files.find? location = none) :
    files.Grows (files.put location .directory) where
  entries other := by
    by_cases same : other = location
    · subst same
      have below : other ≠ [] := by
        rintro rfl
        cases absent
      exact .inr ⟨absent, put_self .directory below⟩
    · exact .inl (put_other .directory same)
  working := rfl
  forbidden := rfl
  storage := rfl

end Grows

theorem makeDirectory_located {slash : Bool} (located : files.locate path = .ok (location, slash)) :
    files.makeDirectory path =
      match files.look location with
      | .error refusal => .error refusal
      | .ok (some _) => .error .alreadyExists
      | .ok none => (files.permit .writing location).map fun _ => files.put location .directory := by
  rw [makeDirectory, located]
  simp only [bind, Except.bind]
  rcases files.look location with _ | _ | _
  · rfl
  · cases files.permit .writing location <;> rfl
  · rfl

theorem makeDirectory_unlocated {refusal : Refusal} (located : files.locate path = .error refusal) :
    files.makeDirectory path = .error refusal := by
  rw [makeDirectory, located]
  rfl

theorem of_makeDirectory (made : files.makeDirectory path = .ok after) :
    ∃ location slash, files.locate path = .ok (location, slash)
      ∧ files.look location = .ok none ∧ after = files.put location .directory := by
  cases located : files.locate path with
  | error refusal =>
    rw [makeDirectory_unlocated located] at made
    cases made
  | ok found =>
    obtain ⟨location, slash⟩ := found
    rw [makeDirectory_located located] at made
    rcases looked : files.look location with _ | _ | _ <;> rw [looked] at made
    · cases made
    · dsimp only at made
      cases allowed : files.permit .writing location <;> rw [allowed] at made <;> cases made
      exact ⟨location, slash, rfl, looked, rfl⟩
    · cases made

theorem isDirectory_iff : files.isDirectory path = true ↔
    ∃ location slash, files.locate path = .ok (location, slash)
      ∧ files.look location = .ok (some .directory) := by
  unfold isDirectory
  cases files.locate path with
  | error refusal => exact ⟨nofun, fun ⟨_, _, located, _⟩ => nomatch located⟩
  | ok found =>
    obtain ⟨location, slash⟩ := found
    dsimp only
    constructor
    · intro there
      refine ⟨location, slash, rfl, ?_⟩
      split at there
      · assumption
      · cases there
    · rintro ⟨_, _, same, looked⟩
      cases same
      rw [looked]

theorem ensureDirectory_grows (files : Files) (path : Text) :
    files.Grows (files.ensureDirectory path).2 := by
  unfold ensureDirectory
  cases made : files.makeDirectory path with
  | error refusal => exact .refl files
  | ok after =>
    obtain ⟨location, _, _, looked, rfl⟩ := of_makeDirectory made
    exact .put (look_eq_ok_iff.1 looked).2

theorem createDirectory_grows (files : Files) (path : Text) :
    files.Grows (files.createDirectory path).2 := by
  fun_induction createDirectory files path with
  | case1 => exact .refl files
  | case2 path _ _ _ above ran ih =>
    rw [ran] at ih
    exact ih.trans (ensureDirectory_grows above path)
  | case3 path _ _ refusal above ran ih =>
    rwa [ran] at ih
  | case4 path => exact ensureDirectory_grows files path

theorem isDirectory_ensureDirectory (ran : files.ensureDirectory path = (.ok (), after)) :
    after.isDirectory path = true := by
  unfold ensureDirectory at ran
  cases made : files.makeDirectory path with
  | error refusal =>
    rw [made] at ran
    dsimp only at ran
    by_cases there : files.isDirectory path = true
    · rw [if_pos there] at ran
      cases ran
      exact there
    · rw [if_neg there] at ran
      cases ran
  | ok new =>
    rw [made] at ran
    cases ran
    obtain ⟨location, slash, located, looked, rfl⟩ := of_makeDirectory made
    obtain ⟨short, fresh⟩ := look_eq_ok_iff.1 looked
    have grows := Grows.put fresh
    have below : location ≠ [] := by
      rintro rfl
      cases fresh
    exact isDirectory_iff.2 ⟨location, slash, grows.keepsWays.locate located,
      look_eq_ok_iff.2 ⟨short, put_self .directory below⟩⟩

theorem createDirectory_missing (notEmpty : path ≠ [])
    (missing : files.makeDirectory path = .error .noSuchFile) :
    files.createDirectory path =
      match files.createDirectory (parent path) with
      | (.ok _, above) => above.ensureDirectory path
      | (.error refusal, above) => (.error refusal, above) := by
  rcases above : files.createDirectory (parent path) with ⟨_ | _, made⟩ <;>
    rw [createDirectory, if_neg notEmpty, missing] <;> simp only [above]

theorem createDirectory_reached (notEmpty : path ≠ [])
    (reached : files.makeDirectory path ≠ .error .noSuchFile) :
    files.createDirectory path = files.ensureDirectory path := by
  rw [createDirectory, if_neg notEmpty]
  split
  · next missing => exact absurd missing reached
  · rfl

theorem isDirectory_createDirectory (notEmpty : path ≠ [])
    (ran : files.createDirectory path = (.ok (), after)) : after.isDirectory path = true := by
  by_cases missing : files.makeDirectory path = .error .noSuchFile
  · rw [createDirectory_missing notEmpty missing] at ran
    rcases above : files.createDirectory (parent path) with ⟨_ | _, made⟩ <;> rw [above] at ran
    · cases ran
    · exact isDirectory_ensureDirectory ran
  · rw [createDirectory_reached notEmpty missing] at ran
    exact isDirectory_ensureDirectory ran

theorem createDirectory_of_isDirectory (there : path = [] ∨ files.isDirectory path = true) :
    files.createDirectory path = (.ok (), files) := by
  by_cases empty : path = []
  · rw [createDirectory, if_pos empty]
  · have there := there.resolve_left empty
    obtain ⟨location, slash, located, looked⟩ := isDirectory_iff.1 there
    have refused : files.makeDirectory path = .error .alreadyExists := by
      rw [makeDirectory_located located, looked]
    rw [createDirectory_reached empty (by simp [refused]), ensureDirectory, refused]
    dsimp only
    rw [if_pos there]

theorem createDirectory_refused {refusal : Refusal} (notEmpty : path ≠ [])
    (refused : files.makeDirectory path = .error refusal) (reached : refusal ≠ .noSuchFile)
    (notThere : ¬files.isDirectory path = true) :
    files.createDirectory path = (.error refusal, files) := by
  rw [createDirectory_reached notEmpty (by simpa [refused] using reached), ensureDirectory, refused]
  dsimp only
  rw [if_neg notThere]

/-! ### A path and what it lies in -/

theorem names_child (base name : Text) : names (base ++ '/' :: name) = names base ++ names name := by
  rw [names, List.splitOn_append_cons_self, List.filter_append]
  rfl

theorem names_bare (bare : '/' ∉ name) (notEmpty : name ≠ []) : names name = [name] := by
  rw [names, List.splitOn_eq_singleton bare]
  simpa using notEmpty

theorem names_of_slashes {slashes : Text} (all : ∀ c ∈ slashes, c = '/') : names slashes = [] := by
  induction slashes with
  | nil => rfl
  | cons c rest ih =>
    obtain rfl := all c List.mem_cons_self
    rw [← List.nil_append ('/' :: rest), names_child, ih fun d inside => all d (.tail _ inside)]
    rfl

theorem names_before_slashes {slashes : Text} (all : ∀ c ∈ slashes, c = '/') :
    names (base ++ slashes) = names base := by
  cases slashes with
  | nil => rw [List.append_nil]
  | cons c rest =>
    rw [all c List.mem_cons_self, names_child, names_of_slashes fun d inside => all d (.tail _ inside),
      List.append_nil]

/-- The path has one name more than the other one, which it starts with. -/
structure Continues (above path name : Text) : Prop where
  notEmpty : above ≠ []
  starts : above <+: path
  names : names path = names above ++ [name]

theorem dropWhile_eq_cons {accepts : Char → Bool} {text : Text}
    (notEmpty : text.dropWhile accepts ≠ []) :
    ∃ c rest, text.dropWhile accepts = c :: rest ∧ accepts c = false :=
  ⟨_, _, (List.cons_head_tail notEmpty).symm, List.head_dropWhile_not _ notEmpty⟩

theorem parent_continues (goesOn : parent path ≠ []) :
    ∃ name, Continues (parent path) path name := by
  let back := path.reverse.dropWhile (· = '/')
  let slashes := path.reverse.takeWhile (· = '/')
  let name := back.takeWhile (· ≠ '/')
  let front := back.dropWhile (· ≠ '/')
  have parent_eq : parent path = front.reverse := rfl
  have whole : path = front.reverse ++ name.reverse ++ slashes.reverse := by
    rw [List.append_assoc, ← List.reverse_append, ← List.reverse_append, List.append_assoc,
      List.takeWhile_append_dropWhile, List.takeWhile_append_dropWhile, List.reverse_reverse]
  have all : ∀ c ∈ slashes.reverse, c = '/' := by
    intro c inside
    simpa using List.mem_takeWhile_imp (List.mem_reverse.1 inside)
  have bare : '/' ∉ name.reverse := by
    intro inside
    simpa using List.mem_takeWhile_imp (List.mem_reverse.1 inside)
  have some : front ≠ [] := by
    rw [parent_eq] at goesOn
    simpa using goesOn
  obtain ⟨c, rest, front_eq, slash⟩ := dropWhile_eq_cons some
  have name_some : name.reverse ≠ [] := by
    have back_some : back ≠ [] :=
      fun none => some (congrArg (List.dropWhile fun c => decide (c ≠ '/')) none)
    obtain ⟨d, more, back_eq, other⟩ := dropWhile_eq_cons back_some
    have name_eq : name = (d :: more).takeWhile (· ≠ '/') := by rw [← back_eq]
    rw [name_eq, List.takeWhile_cons_of_pos (by simpa using other)]
    simp
  obtain rfl : c = '/' := by simpa using slash
  have front_eq : front = '/' :: rest := front_eq
  refine ⟨name.reverse, goesOn, ?_, ?_⟩
  · rw [parent_eq]
    conv => rhs; rw [whole]
    rw [List.append_assoc]
    exact List.prefix_append _ _
  · rw [parent_eq]
    conv => lhs; rw [whole]
    rw [names_before_slashes all, front_eq, List.reverse_cons, List.append_assoc,
      List.singleton_append, names_child, names_bare bare name_some, names_before_slashes (by simp)]

theorem Continues.isPath (goesOn : Continues above path name) (isPath : IsPath path) :
    IsPath above := by
  obtain ⟨rest, rfl⟩ := goesOn.starts
  obtain ⟨noNul, -, short⟩ := isPath
  refine ⟨fun nul => noNul (List.mem_append_left _ nul), goesOn.notEmpty, ?_⟩
  rw [Utf8.encode_append, List.length_append] at short
  omega

theorem Continues.start (goesOn : Continues above path name) (files : Files) :
    files.start path = files.start above := by
  obtain ⟨rest, rfl⟩ := goesOn.starts
  unfold Files.start
  rw [List.head?_append_of_ne_nil _ goesOn.notEmpty]

theorem follow_append (files : Files) (origin : Location) (front back : List Text) :
    files.follow origin (front ++ back)
      = (files.follow origin front).bind fun location => files.follow location back := by
  induction front generalizing origin with
  | nil => rfl
  | cons name front ih =>
    rw [List.cons_append, follow, follow]
    cases files.enter origin with
    | error refusal => rfl
    | ok _ => exact ih _

theorem eq_foldl_of_follow {names : List Text} (followed : files.follow origin names = .ok final) :
    final = names.foldl step origin := by
  induction names generalizing origin with
  | nil =>
    cases followed
    rfl
  | cons name rest ih =>
    rw [follow_cons_eq_ok_iff] at followed
    exact ih followed.2

theorem Continues.follow_eq (goesOn : Continues above path name) (files : Files) :
    files.follow (files.start path) (Files.names path)
      = (files.follow (files.start above) (Files.names above)).bind fun location =>
        (files.enter location).map fun _ => step location name := by
  rw [goesOn.start, goesOn.names, follow_append]
  cases files.follow (files.start above) (Files.names above) with
  | error refusal => rfl
  | ok location =>
    change files.follow location [name] = (files.enter location).map fun _ => step location name
    rw [follow]
    cases files.enter location <;> rfl

theorem Continues.isDirectory (goesOn : Continues above path name)
    (there : files.isDirectory path = true) : files.isDirectory above = true := by
  obtain ⟨location, slash, located, -⟩ := isDirectory_iff.1 there
  obtain ⟨isPath, followed, -⟩ := locate_eq_ok_iff.1 located
  rw [goesOn.follow_eq] at followed
  cases way : files.follow (files.start above) (Files.names above) with
  | error refusal =>
    rw [way] at followed
    cases followed
  | ok origin =>
    rw [way] at followed
    cases entered : files.enter origin with
    | error refusal =>
      simp only [Except.bind, entered] at followed
      cases followed
    | ok _ =>
      exact isDirectory_iff.2 ⟨origin, _, locate_eq_ok_iff.2 ⟨goesOn.isPath isPath, way, rfl⟩,
        (enter_eq_ok_iff.1 entered).1⟩

theorem look_eq (files : Files) (location : Location) :
    files.look location = .error .nameTooLong
      ∨ files.look location = .ok (files.find? location) := by
  unfold look
  split
  · exact .inl rfl
  · exact .inr rfl

/-- How a directory cannot be made where what it is to be in is none. -/
theorem Continues.makeDirectory_refused (goesOn : Continues above path name) (isPath : IsPath path)
    (notThere : ¬files.isDirectory above = true) :
    files.makeDirectory path = .error .noSuchFile
      ∨ (∃ refusal, files.makeDirectory path = .error refusal
        ∧ files.makeDirectory above = .error refusal)
      ∨ ∃ location entry, files.follow (files.start above) (Files.names above) = .ok location
        ∧ files.find? location = some entry ∧ entry ≠ .directory := by
  have located := locate_of_isPath isPath files
  have located_above := locate_of_isPath (goesOn.isPath isPath) files
  rw [goesOn.follow_eq] at located
  cases way : files.follow (files.start above) (Files.names above) with
  | error refusal =>
    rw [way] at located located_above
    exact .inr (.inl ⟨refusal, makeDirectory_unlocated located,
      makeDirectory_unlocated located_above⟩)
  | ok location =>
    rw [way] at located located_above
    simp only [Except.bind, enter] at located
    cases looked : files.look location with
    | error refusal =>
      rw [looked] at located
      refine .inr (.inl ⟨refusal, makeDirectory_unlocated located, ?_⟩)
      rw [makeDirectory_located located_above, looked]
    | ok entry =>
      rw [looked] at located
      rcases entry with _ | entry
      · exact .inl (makeDirectory_unlocated located)
      · have other : entry ≠ .directory := by
          rintro rfl
          exact notThere (isDirectory_iff.2 ⟨location, _, located_above, looked⟩)
        exact .inr (.inr ⟨location, entry, rfl, (look_eq_ok_iff.1 looked).2, other⟩)

theorem Continues.makeDirectory_through (goesOn : Continues above path name) (isPath : IsPath path)
    (way : files.follow (files.start above) (Files.names above) = .ok location)
    (there : files.find? location = some entry) (other : entry ≠ .directory) :
    files.makeDirectory path ≠ .error .noSuchFile := by
  have located := locate_of_isPath isPath files
  rw [goesOn.follow_eq, way] at located
  simp only [Except.bind, enter] at located
  rcases files.look_eq location with looked | looked <;> rw [looked] at located
  · rw [makeDirectory_unlocated located]
    nofun
  · rw [there] at located
    have refused : files.locate path = .error .notADirectory := by
      cases entry <;> first | exact absurd rfl other | exact located
    rw [makeDirectory_unlocated refused]
    nofun

/-! ### Paths that lead downwards -/

theorem prefix_step (notUp : name ≠ ['.', '.']) : location <+: step location name := by
  unfold step
  rw [if_neg notUp]
  split
  · exact List.prefix_rfl
  · exact List.prefix_append _ _

theorem prefix_of_follow {names : List Text} (downward : ['.', '.'] ∉ names)
    (followed : files.follow origin names = .ok final) : origin <+: final := by
  induction names generalizing origin with
  | nil =>
    cases followed
    exact List.prefix_rfl
  | cons name rest ih =>
    rw [follow_cons_eq_ok_iff] at followed
    rw [List.mem_cons, not_or] at downward
    exact (prefix_step (Ne.symm downward.1)).trans (ih downward.2 followed.2)

-- Above what was there before nothing is new, so the way to it is not new either.
theorem follow_of_grows (tree : files.IsTree) (grows : files.Grows after) {names : List Text}
    (downward : ['.', '.'] ∉ names) (followed : after.follow origin names = .ok final)
    (there : files.find? final ≠ none) : files.follow origin names = .ok final := by
  induction names generalizing origin with
  | nil =>
    cases followed
    rfl
  | cons name rest ih =>
    have above := tree.there_above (prefix_of_follow downward followed) there
    rw [follow_cons_eq_ok_iff] at followed ⊢
    rw [List.mem_cons, not_or] at downward
    refine ⟨?_, ih downward.2 followed.2⟩
    have entered := followed.1
    rw [enter_eq_ok_iff, look_eq_ok_iff] at entered ⊢
    rwa [← grows.find?_eq above, ← grows.forbidden]

/-- From some directory on, the path does not lead up. Behind a name that is missing, two dots lead
nowhere, and to somewhere once a directory of that name is made. -/
def LeadsDown (files : Files) (path : Text) : Prop :=
  ∃ front back origin, names path = front ++ back
    ∧ files.follow (files.start path) front = .ok origin
    ∧ files.find? origin = some .directory ∧ ['.', '.'] ∉ back

theorem LeadsDown.follow (leads : files.LeadsDown path) (tree : files.IsTree)
    (grows : files.Grows after) (followed : after.follow (after.start path) (names path) = .ok final)
    (there : files.find? final ≠ none) :
    files.follow (files.start path) (names path) = .ok final := by
  obtain ⟨front, back, origin, whole, way, -, downward⟩ := leads
  have way' := grows.keepsWays.follow way
  rw [grows.keepsWays.start, whole, follow_append, way'] at followed
  rw [whole, follow_append, way]
  exact follow_of_grows tree grows downward followed there

theorem isPath_of_missing (notEmpty : path ≠ [])
    (missing : files.makeDirectory path = .error .noSuchFile) : IsPath path := by
  by_contra notPath
  obtain ⟨refusal, other, located⟩ := locate_of_not_isPath notPath notEmpty
  rw [makeDirectory_unlocated (located files)] at missing
  cases missing
  exact other rfl

theorem LeadsDown.before (leads : files.LeadsDown path) (goesOn : Continues above path name)
    (isPath : IsPath path) (missing : files.makeDirectory path = .error .noSuchFile) :
    files.LeadsDown above ∧ name ≠ ['.', '.'] := by
  obtain ⟨front, back, origin, whole, way, there, downward⟩ := leads
  rcases List.eq_nil_or_concat back with rfl | ⟨back, last, rfl⟩
  · rw [List.append_nil] at whole
    rw [← whole] at way
    have located := (@locate_eq_ok_iff files path (origin, _)).2 ⟨isPath, way, rfl⟩
    rw [makeDirectory_located located] at missing
    rcases files.look_eq origin with looked | looked <;> rw [looked] at missing
    · cases missing
    · rw [there] at missing
      cases missing
  · rw [List.concat_eq_append] at whole downward
    rw [goesOn.names, ← List.append_assoc] at whole
    obtain ⟨same, single⟩ := List.append_inj' whole rfl
    cases single
    rw [List.mem_append, not_or, List.mem_singleton] at downward
    exact ⟨⟨front, back, origin, same, goesOn.start files ▸ way, there, downward.1⟩,
      Ne.symm downward.2⟩

/-! ### Making directories once more -/

theorem of_ensureDirectory_error {refusal : Refusal}
    (ran : files.ensureDirectory path = (.error refusal, after)) :
    after = files ∧ files.makeDirectory path = .error refusal
      ∧ ¬files.isDirectory path = true := by
  unfold ensureDirectory at ran
  cases made : files.makeDirectory path with
  | ok new =>
    rw [made] at ran
    cases ran
  | error cause =>
    rw [made] at ran
    dsimp only at ran
    by_cases there : files.isDirectory path = true
    · rw [if_pos there] at ran
      cases ran
    · rw [if_neg there] at ran
      cases ran
      exact ⟨rfl, rfl, there⟩

theorem createDirectory_again_of_parent (tree : files.IsTree) (leads : files.LeadsDown (parent path))
    (notEmpty : path ≠ []) (missing : files.makeDirectory path = .error .noSuchFile)
    (goesOn : Continues (parent path) path name) {refusal : Refusal}
    (ran : files.createDirectory (parent path) = (.error refusal, after))
    (again : after.createDirectory (parent path) = (.error refusal, after)) :
    after.createDirectory path = (.error refusal, after) := by
  have isPath := isPath_of_missing notEmpty missing
  have notThere : ¬after.isDirectory (parent path) = true := by
    intro there
    rw [createDirectory_of_isDirectory (.inr there)] at again
    cases again
  rcases goesOn.makeDirectory_refused isPath notThere with still | both | through
  · rw [createDirectory_missing notEmpty still, again]
  · obtain ⟨cause, refused, refusedAbove⟩ := both
    by_cases still : cause = .noSuchFile
    · rw [createDirectory_missing notEmpty (still ▸ refused), again]
    · rw [createDirectory_refused goesOn.notEmpty refusedAbove still notThere] at again
      cases again
      exact createDirectory_refused notEmpty refused still
        fun there => notThere (goesOn.isDirectory there)
  · -- A file that is there now was there before, and made the first try fail in this way.
    obtain ⟨location, entry, way, there, other⟩ := through
    have grows := createDirectory_grows files (parent path)
    rw [ran] at grows
    have before : files.find? location = some entry := by
      rw [← there, eq_comm]
      exact (grows.entries location).resolve_right fun new => other (by simpa [there] using new.2)
    have way := leads.follow tree grows way (by simp [before])
    exact absurd missing (goesOn.makeDirectory_through isPath way before other)

theorem createDirectory_again (tree : files.IsTree) (leads : files.LeadsDown path)
    {outcome : Except Refusal Unit} (ran : files.createDirectory path = (outcome, after)) :
    after.createDirectory path = (outcome, after) := by
  cases outcome with
  | ok _ =>
    exact createDirectory_of_isDirectory ((eq_or_ne path []).imp_right
      fun notEmpty => isDirectory_createDirectory notEmpty ran)
  | error refusal =>
    fun_induction createDirectory files path generalizing after with
    | case1 => cases ran
    | case2 path notEmpty missing _ made ranAbove ih =>
      obtain ⟨rfl, refused, notThere⟩ := of_ensureDirectory_error ran
      by_cases again : refusal = .noSuchFile
      · have above := createDirectory_of_isDirectory ((eq_or_ne (parent path) []).imp_right
          fun notEmpty => isDirectory_createDirectory notEmpty ranAbove)
        rw [createDirectory_missing notEmpty (again ▸ refused), above]
        exact ran
      · exact createDirectory_refused notEmpty refused again notThere
    | case3 path notEmpty missing cause made ranAbove ih =>
      cases ran
      have goesOn : parent path ≠ [] := by
        intro empty
        rw [createDirectory_of_isDirectory (.inl empty)] at ranAbove
        cases ranAbove
      obtain ⟨name, goesOn⟩ := parent_continues goesOn
      have leads := (leads.before goesOn (isPath_of_missing notEmpty missing) missing).1
      exact createDirectory_again_of_parent tree leads notEmpty missing goesOn ranAbove
        (ih leads ranAbove)
    | case4 path notEmpty reached =>
      obtain ⟨rfl, refused, notThere⟩ := of_ensureDirectory_error ran
      exact createDirectory_refused notEmpty refused (fun same => reached (same ▸ refused)) notThere

/-! ### Which directories are new -/

theorem ensureDirectory_new
    (new : (files.ensureDirectory path).2.find? location ≠ files.find? location) :
    location = (names path).foldl step (files.start path) := by
  unfold ensureDirectory at new
  cases made : files.makeDirectory path with
  | error refusal =>
    rw [made] at new
    exact absurd rfl new
  | ok _ =>
    rw [made] at new
    obtain ⟨place, slash, located, -, rfl⟩ := of_makeDirectory made
    have same : location = place := by
      by_contra different
      exact new (put_other .directory different)
    rw [same]
    exact eq_foldl_of_follow (locate_eq_ok_iff.1 located).2.1

theorem LeadsDown.prefix_of_parent (leads : files.LeadsDown path) (notEmpty : path ≠ [])
    (missing : files.makeDirectory path = .error .noSuchFile) (goesOn : parent path ≠ [])
    (onWay : files.LeadsDown (parent path) →
      location <+: (names (parent path)).foldl step (files.start (parent path))) :
    location <+: (names path).foldl step (files.start path) := by
  obtain ⟨name, goesOn⟩ := parent_continues goesOn
  have before := leads.before goesOn (isPath_of_missing notEmpty missing) missing
  rw [goesOn.names, goesOn.start, List.foldl_append]
  exact (onWay before.1).trans (prefix_step before.2)

-- New directories are on the way to the one that was asked for.
theorem createDirectory_new (leads : files.LeadsDown path)
    (new : (files.createDirectory path).2.find? location ≠ files.find? location) :
    location <+: (names path).foldl step (files.start path) := by
  fun_induction createDirectory files path with
  | case1 => exact absurd rfl new
  | case2 path notEmpty missing _ above ran ih =>
    by_cases old : above.find? location = files.find? location
    · have grows := createDirectory_grows files (parent path)
      rw [ran] at grows
      rw [← old] at new
      have ends := ensureDirectory_new new
      rw [grows.keepsWays.start] at ends
      exact ends ▸ List.prefix_refl location
    · rw [ran] at ih
      refine leads.prefix_of_parent notEmpty missing (fun empty => old ?_) fun leads => ih leads old
      rw [createDirectory_of_isDirectory (.inl empty)] at ran
      cases ran
      rfl
  | case3 path notEmpty missing _ above ran ih =>
    rw [ran] at ih
    refine leads.prefix_of_parent notEmpty missing (fun empty => new ?_) fun leads => ih leads new
    rw [createDirectory_of_isDirectory (.inl empty)] at ran
    cases ran
  | case4 path notEmpty reached => exact ensureDirectory_new new ▸ List.prefix_refl location

theorem pathExists_iff : files.pathExists path = true ↔
    ∃ location slash, files.locate path = .ok (location, slash)
      ∧ files.find? location ≠ none := by
  unfold pathExists
  cases files.locate path with
  | error refusal => exact ⟨nofun, fun ⟨_, _, located, _⟩ => nomatch located⟩
  | ok found =>
    obtain ⟨location, slash⟩ := found
    dsimp only
    rw [Option.isSome_iff_ne_none]
    refine ⟨fun there => ⟨location, slash, rfl, there⟩, ?_⟩
    rintro ⟨_, _, same, there⟩
    cases same
    exact there

theorem pathExists_createDirectory (tree : files.IsTree) (leads : files.LeadsDown above)
    (goesOn : Continues above path name) (proper : name ≠ ['.'] ∧ name ≠ ['.', '.'])
    (absent : ¬files.pathExists path = true) :
    ¬(files.createDirectory above).2.pathExists path = true := by
  intro now
  have grows := createDirectory_grows files above
  obtain ⟨location, slash, located, there⟩ := pathExists_iff.1 now
  obtain ⟨isPath, followed, slash_eq⟩ := locate_eq_ok_iff.1 located
  by_cases before : files.find? location = none
  · have within := createDirectory_new leads (before ▸ there)
    have ends : location = _ := eq_foldl_of_follow followed
    rw [goesOn.names, goesOn.start, grows.keepsWays.start, List.foldl_append, List.foldl_cons,
      List.foldl_nil, step, if_neg proper.1, if_neg proper.2] at ends
    have shorter := within.length_le
    rw [ends, List.length_append, List.length_singleton] at shorter
    omega
  · obtain ⟨front, back, origin, whole, way, there, downward⟩ := leads
    have leadsOn : files.LeadsDown path := by
      refine ⟨front, back ++ [name], origin, ?_, goesOn.start files ▸ way, there, ?_⟩
      · rw [goesOn.names, whole, List.append_assoc]
      · rw [List.mem_append, List.mem_singleton, not_or]
        exact ⟨downward, Ne.symm proper.2⟩
    have followed := leadsOn.follow tree grows followed before
    exact absent (pathExists_iff.2 ⟨location, slash,
      locate_eq_ok_iff.2 ⟨isPath, followed, slash_eq⟩, before⟩)

/-! ### Writing what is not there -/

/-- New files hold these bytes, and can be read. Where the room runs out a new file holds a part of
them, which is what is found there the next time. -/
def TakesNew (files : Files) (content : Bytes) : Prop :=
  ∀ location, files.find? location = none →
    files.storage 0 location content = .taken ∧ files.forbidden .reading location = none

theorem Grows.takesNew (grows : files.Grows after) {content : Bytes}
    (takes : files.TakesNew content) : after.TakesNew content := by
  intro location fresh
  rw [grows.storage, grows.forbidden]
  exact takes location (grows.absent fresh)

theorem target_absent (absent : ¬files.pathExists path = true) {found : Location × Option Entry}
    (target : files.target path = .ok found) : files.find? found.1 = none ∧ found.2 = none := by
  obtain ⟨location, entry⟩ := found
  obtain ⟨located, looked, -, -⟩ := of_target target
  have there := (look_eq_ok_iff.1 looked).2
  have fresh : files.find? location = none := by
    by_contra there
    exact absent (pathExists_iff.2 ⟨location, false, located, there⟩)
  exact ⟨fresh, there.symm.trans fresh⟩

theorem write_absent_extends (absent : ¬files.pathExists path = true) (content : Bytes) :
    (files.write path content).2.Extends files := by
  cases target : files.target path with
  | error refusal =>
    rw [write, target]
    exact .refl files
  | ok found =>
    obtain ⟨location, entry⟩ := found
    obtain ⟨fresh, rfl⟩ := target_absent absent target
    rw [write_of_target target (by simp)]
    obtain ⟨stored, storage, left, -⟩ := store_eq files location content
    rw [left]
    intro other entry there
    have different : other ≠ location := by
      rintro rfl
      rw [fresh] at there
      cases there
    exact (put_other _ different).trans there

theorem write_absent (absent : ¬files.pathExists path = true) {content : Bytes}
    (takes : files.TakesNew content) :
    (∃ refusal, files.write path content = (.error refusal, files))
      ∨ ∃ after, files.write path content = (.ok (), after) ∧ after.pathExists path = true
        ∧ after.read path = .ok content := by
  cases target : files.target path with
  | error refusal =>
    refine .inl ⟨refusal, ?_⟩
    rw [write, target]
  | ok found =>
    obtain ⟨location, entry⟩ := found
    obtain ⟨fresh, rfl⟩ := target_absent absent target
    obtain ⟨room, readable⟩ := takes location fresh
    have ran : files.write path content = (.ok (), (files.store location content).2) := by
      rw [write_of_target target (by simp)]
      exact Prod.ext (store_taken room) rfl
    obtain ⟨located, -, -, -⟩ := of_target target
    have keeps : files.KeepsWays (files.store location content).2 :=
      store_keepsWays (by simp [fresh]) content
    have regular : files.IsRegular path := by
      intro place slash refusal again
      cases located.symm.trans again
      simp [fresh]
    have holds := holds_of_write regular ran
    have allowed : (files.store location content).2.Allows .reading path := by
      intro place slash again
      cases (keeps.locate located).symm.trans again
      rw [keeps.forbidden]
      exact readable
    refine .inr ⟨_, ran, ?_, read_of_openEntry (openEntry_of_holds holds allowed)⟩
    obtain ⟨place, located, there⟩ := holds
    refine pathExists_iff.2 ⟨place, false, located, ?_⟩
    simp [(look_eq_ok_iff.1 there).2]

end LineEditor.Files
